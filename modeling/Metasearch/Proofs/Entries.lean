import Mathlib.Order.Defs.Unbundled

/-! Values listed by key, in strictly increasing order of keys. Changing the value of one key keeps the order
and changes what is found under no other key. -/
namespace Metasearch.Entries

variable {κ β : Type} [DecidableEq κ] [LT κ]

/-- Each key comes before all that are listed after it. -/
def Ordered (entries : List (κ × β)) : Prop :=
  entries.Pairwise fun a b => a.1 < b.1

variable {entries : List (κ × β)} {key other : κ} {value : β}

section Found

variable [IsStrictTotalOrder κ (· < ·)]

theorem lookup_eq_none_of_lt (h : ∀ entry ∈ entries, key < entry.1) : entries.lookup key = none := by
  rw [List.lookup_eq_none_iff]
  intro entry hMem
  rw [bne_iff_ne]
  rintro rfl
  exact irrefl_of (· < ·) entry.1 (h entry hMem)

theorem Ordered.lookup_eq_some_iff (h : Ordered entries) :
    entries.lookup key = some value ↔ (key, value) ∈ entries := by
  induction entries with
  | nil => simp
  | cons first rest ih =>
      obtain ⟨other, found⟩ := first
      obtain ⟨hFirst, hRest⟩ := List.pairwise_cons.mp h
      by_cases hKey : key = other
      · subst hKey
        have hLater : (key, value) ∉ rest := fun hMem =>
          irrefl_of (· < ·) key (hFirst (key, value) hMem)
        simp [hLater, eq_comm]
      · simp [List.lookup_cons, beq_false_of_ne hKey, hKey, ih hRest]

end Found

variable [DecidableLT κ] (new : Option β → β)

/-- Change the value of a key, which starts from `none`. -/
def change (key : κ) : List (κ × β) → List (κ × β)
  | [] => [(key, new none)]
  | (other, value) :: rest =>
    if other = key then (other, new (some value)) :: rest
    else if key < other then (key, new none) :: (other, value) :: rest
    else (other, value) :: change key rest

theorem change_nil (key : κ) : change new key [] = [(key, new none)] := rfl

theorem change_cons (key other : κ) (value : β) (rest : List (κ × β)) :
    change new key ((other, value) :: rest) =
      if other = key then (other, new (some value)) :: rest
      else if key < other then (key, new none) :: (other, value) :: rest
      else (other, value) :: change new key rest := rfl

/-- Changing the value of a key lists this key and no other new one. -/
theorem mem_map_fst_change :
    other ∈ (change new key entries).map Prod.fst ↔ other = key ∨ other ∈ entries.map Prod.fst := by
  induction entries with
  | nil => simp only [change_nil, List.map_cons, List.map_nil, List.mem_singleton, List.not_mem_nil, or_false]
  | cons first rest ih =>
      obtain ⟨listed, value⟩ := first
      rw [change_cons]
      split
      · rename_i hKey
        subst hKey
        rw [List.map_cons, List.map_cons, List.mem_cons, or_self_left]
      · split
        · rw [List.map_cons, List.mem_cons]
        · rw [List.map_cons, List.mem_cons, ih, List.map_cons, List.mem_cons]
          exact or_left_comm

theorem lookup_change_of_ne (h : other ≠ key) :
    (change new key entries).lookup other = entries.lookup other := by
  induction entries with
  | nil => simp [change_nil, List.lookup_cons, beq_false_of_ne h]
  | cons first rest ih =>
      obtain ⟨listed, value⟩ := first
      rw [change_cons]
      split
      · rename_i hKey
        subst hKey
        simp [List.lookup_cons, beq_false_of_ne h]
      · split
        · simp [List.lookup_cons, beq_false_of_ne h]
        · simp only [List.lookup_cons, ih]

variable [IsStrictTotalOrder κ (· < ·)]

theorem Ordered.change (h : Ordered entries) (key : κ) : Ordered (change new key entries) := by
  induction entries with
  | nil => exact List.pairwise_singleton _ _
  | cons first rest ih =>
      obtain ⟨other, value⟩ := first
      obtain ⟨hFirst, hRest⟩ := List.pairwise_cons.mp h
      rw [change_cons]
      split
      · exact List.Pairwise.cons hFirst hRest
      · rename_i hNe
        split
        · rename_i hLess
          refine List.Pairwise.cons (fun later hMem => ?_) h
          rcases List.mem_cons.mp hMem with rfl | hMem
          · exact hLess
          · exact trans_of (· < ·) hLess (hFirst later hMem)
        · rename_i hNot
          have hLess : other < key := ((trichotomous_of (· < ·) other key).resolve_right
            fun hOr => hOr.elim hNe hNot)
          refine List.Pairwise.cons (fun later hMem => ?_) (ih hRest)
          rcases (mem_map_fst_change new).mp (List.mem_map_of_mem hMem) with hEq | hOld
          · rw [hEq]
            exact hLess
          · obtain ⟨old, hOld, hEq⟩ := List.mem_map.mp hOld
            rw [← hEq]
            exact hFirst old hOld

theorem lookup_change_self (h : Ordered entries) :
    (change new key entries).lookup key = some (new (entries.lookup key)) := by
  induction entries with
  | nil => simp [change_nil]
  | cons first rest ih =>
      obtain ⟨other, value⟩ := first
      obtain ⟨hFirst, hRest⟩ := List.pairwise_cons.mp h
      rw [change_cons]
      split
      · rename_i hKey
        subst hKey
        simp
      · rename_i hNe
        split
        · -- A new key goes here. Nothing is found under it because all later keys come after it.
          rename_i hLess
          have hNone : ((other, value) :: rest).lookup key = none := by
            apply lookup_eq_none_of_lt
            intro entry hMem
            rcases List.mem_cons.mp hMem with rfl | hMem
            · exact hLess
            · exact trans_of (· < ·) hLess (hFirst entry hMem)
          rw [hNone]
          simp
        · have hOther : (key == other) = false := beq_false_of_ne (Ne.symm hNe)
          simpa only [List.lookup_cons, hOther] using ih hRest

end Metasearch.Entries
