import Metasearch.Proofs.Text.Pieces
import Metasearch.Proofs.Url.Escapes
import Metasearch.Url.Normal

/-! Paths that reading does not change. Every path that was read is one, and stays one when the slashes at
its end are taken away. -/
namespace Metasearch.Url

open Text

variable {port : Nat}

/-- An escaped segment between separators. -/
structure Segment (segment : List Char) : Prop where
  apart : ∀ c ∈ segment, isSeparator .file c = false
  kept : ∀ c ∈ segment, Percent.Kept Percent.pathSet c

/-- A segment that leads neither to the place reached nor above it. -/
structure Settled (segment : List Char) : Prop extends Segment segment where
  singleDot : isSingleDot segment = false
  doubleDot : isDoubleDot segment = false

theorem Segment.nil : Segment [] where
  apart := by simp
  kept := by simp

theorem Settled.nil : Settled [] where
  toSegment := .nil
  singleDot := by decide
  doubleDot := by decide

/-- What is between two separators is a segment once it is escaped. -/
theorem segment_escape {cs : List Char} (h : ∀ c ∈ cs, isSeparator (.network port) c = false) :
    Segment (Percent.escape Percent.pathSet cs) where
  apart c hc := by
    by_cases hSeparator : isSeparator .file c = true
    · have hMark : isSeparator .file '%' = false := by decide
      have hDigits : ∀ n < 16, isSeparator .file (Percent.hexDigit n) = false := by decide
      have hMem : c ∈ cs := Percent.mem_of_mem_escape
        (fun hc => by simp [hc, hMark] at hSeparator)
        (fun n hn hc => by simp [hc, hDigits n hn] at hSeparator) hc
      exact h c hMem
    · simpa using hSeparator
  kept c hc := Percent.kept_of_mem_escape (by decide) (by decide) hc

theorem keptSegment_network (done : List (List Char)) (segment : List Char) :
    keptSegment (.network port) done segment = segment := by
  unfold keptSegment
  split
  · contradiction
  · rfl

theorem mem_of_mem_above {segment : List Char} {done : List (List Char)} (h : segment ∈ above done) :
    segment ∈ done := by
  cases done with
  | nil => exact h
  | cons last before =>
      rw [above] at h
      split at h
      · exact h
      · exact List.mem_cons_of_mem _ h

/-- Walking through segments passes settled ones only. -/
theorem settled_walk {done segments : List (List Char)} (hDone : ∀ segment ∈ done, Settled segment)
    (hSegments : ∀ segment ∈ segments, Segment segment) :
    (∀ segment ∈ (walk (.network port) done segments).1, Settled segment) ∧
      Settled (walk (.network port) done segments).2 := by
  have hAbove : ∀ segment ∈ above done, Settled segment := fun segment h => hDone _ (mem_of_mem_above h)
  induction segments generalizing done with
  | nil => exact ⟨by simpa [walk] using hDone, .nil⟩
  | cons segment rest ih =>
      have hSegment := hSegments segment (List.mem_cons_self ..)
      have hRest := fun other hOther => hSegments other (List.mem_cons_of_mem _ hOther)
      cases rest with
      | nil =>
          rw [walk]
          split
          · exact ⟨by simpa using hAbove, .nil⟩
          · rename_i hDouble
            split
            · exact ⟨by simpa using hDone, .nil⟩
            · rename_i hSingle
              rw [keptSegment_network]
              exact ⟨by simpa using hDone, hSegment, by simpa using hSingle, by simpa using hDouble⟩
      | cons next rest =>
          have hOnward : ∀ done, (∀ segment ∈ done, Settled segment) →
              (∀ segment ∈ (walk (.network port) done (next :: rest)).1, Settled segment) ∧
                Settled (walk (.network port) done (next :: rest)).2 := fun done hDone =>
            ih hDone hRest fun segment h => hDone _ (mem_of_mem_above h)
          rw [walk]
          · split
            · exact hOnward _ hAbove
            · rename_i hDouble
              split
              · exact hOnward _ hDone
              · rename_i hSingle
                rw [keptSegment_network]
                refine hOnward _ (List.forall_mem_cons.mpr ⟨?_, hDone⟩)
                exact ⟨hSegment, by simpa using hSingle, by simpa using hDouble⟩
          · simp

/-- Settled segments are passed one after another. -/
theorem walk_settled {done segments : List (List Char)} {last : List Char}
    (hSegments : ∀ segment ∈ segments, Settled segment) (hLast : Settled last) :
    walk (.network port) done (segments ++ [last]) = (done.reverse ++ segments, last) := by
  induction segments generalizing done with
  | nil => simp [walk, hLast.singleDot, hLast.doubleDot, keptSegment_network]
  | cons segment rest ih =>
      have hSegment := hSegments segment (List.mem_cons_self ..)
      have hRest : walk (.network port) (segment :: done) (rest ++ [last]) = _ :=
        ih fun other hOther => hSegments other (List.mem_cons_of_mem _ hOther)
      rw [List.cons_append, walk]
      · simp [hSegment.singleDot, hSegment.doubleDot, keptSegment_network, hRest]
      · simp

/-- The path is written with settled segments. -/
def SettledPath (path : List Char) : Prop :=
  ∃ segments last, (∀ segment ∈ segments, Settled segment) ∧ Settled last ∧ path = pathText segments last

theorem readPath_network (text : List Char) :
    readPath (.network port) text =
      pathText (segmentsOf (.network port) text).1 (segmentsOf (.network port) text).2 := by
  simp [readPath, SchemeKind.isSpecial]

theorem settledPath_readPath (text : List Char) : SettledPath (readPath (.network port) text) := by
  rw [readPath_network]
  obtain ⟨hPassed, hLast⟩ : (∀ segment ∈ (segmentsOf (.network port) text).1, Settled segment) ∧
      Settled (segmentsOf (.network port) text).2 := by
    refine settled_walk (by simp) fun segment hSegment => ?_
    obtain ⟨piece, hPiece, rfl⟩ := List.mem_map.mp hSegment
    exact segment_escape fun c hc => not_isMark_of_mem_splitAtMarks hPiece hc
  exact ⟨_, _, hPassed, hLast, rfl⟩

theorem pathText_eq (segments : List (List Char)) (last : List Char) :
    pathText segments last = '/' :: joinWith ['/'] (segments ++ [last]) := by
  rw [pathText, joinWith_eq_intercalate, List.cons_append]
  congr 1
  induction segments with
  | nil => simp
  | cons segment rest ih =>
      rw [List.flatMap_cons, List.append_assoc, ih]
      cases rest <;> simp

/-- Reading a settled path gives it back. -/
theorem readPath_settled {path : List Char} (h : SettledPath path) : readPath (.network port) path = path := by
  obtain ⟨segments, last, hSegments, hLast, rfl⟩ := h
  have hAll : ∀ segment ∈ segments ++ [last], Settled segment := by
    simpa [or_imp, forall_and] using ⟨hSegments, hLast⟩
  have hSplit : splitAtMarks (isSeparator (.network port)) (joinWith ['/'] (segments ++ [last])) =
      segments ++ [last] :=
    splitAtMarks_joinWith rfl (fun segment h => (hAll segment h).apart) (by simp)
  have hEscaped : (segments ++ [last]).map (Percent.escape Percent.pathSet) = segments ++ [last] :=
    (List.map_congr_left fun segment h => Percent.escape_of_kept (hAll segment h).kept).trans (List.map_id' _)
  have hWalk : segmentsOf (.network port) (pathText segments last) = (segments, last) := by
    rw [pathText_eq, segmentsOf]
    simp only [isSeparator, SchemeKind.isSpecial] at hSplit ⊢
    simp [hSplit, hEscaped, walk_settled hSegments hLast]
  rw [readPath_network, hWalk]

theorem SettledPath.exists_eq_cons {path : List Char} (h : SettledPath path) :
    ∃ below, path = '/' :: below := by
  obtain ⟨segments, last, -, -, rfl⟩ := h
  exact ⟨_, rfl⟩

/-- Between its slashes a settled path holds nothing that would have to be escaped. -/
theorem SettledPath.forall_mem {path : List Char} (h : SettledPath path) :
    ∀ c ∈ path, c = '/' ∨ Percent.Kept Percent.pathSet c := by
  obtain ⟨segments, last, hSegments, hLast, rfl⟩ := h
  rw [pathText_eq, List.forall_mem_cons]
  refine ⟨Or.inl rfl, forall_mem_joinWith (by simp) fun segment hSegment c hc => Or.inr ?_⟩
  rcases List.mem_append.mp hSegment with hSegment | hSegment
  · exact (hSegments segment hSegment).kept c hc
  · rw [List.mem_singleton.mp hSegment] at hc
    exact hLast.kept c hc

theorem SettledPath.notMem {path : List Char} (h : SettledPath path) {c : Char} (hSlash : c ≠ '/')
    (hSet : Percent.pathSet c = true) : c ∉ path := by
  intro hc
  have hOut := ((h.forall_mem c hc).resolve_left hSlash).2
  rw [hSet] at hOut
  cases hOut

theorem SettledPath.question_notMem {path : List Char} (h : SettledPath path) : '?' ∉ path :=
  h.notMem (by decide) (by decide)

/-- The path without the slashes at its end. The root has none of its own. -/
def shortPath (path : List Char) : List Char :=
  dropTailWhile (· == '/') path

/-- A path that ends in a segment ends in no slash. -/
theorem shortPath_pathText {segments : List (List Char)} {last : List Char} (hLast : Settled last)
    (hSome : last ≠ []) : shortPath (pathText segments last) = pathText segments last := by
  rw [shortPath, dropTailWhile_eq_rdropWhile, List.rdropWhile_eq_self_iff]
  intro _ hSlash
  have hEnd := hLast.apart (last.getLast hSome) (List.getLast_mem hSome)
  simp only [pathText, List.getLast_append_of_ne_nil _ hSome, beq_iff_eq] at hSlash
  rw [hSlash] at hEnd
  cases hEnd

/-- Without the slashes at its end a path is still settled, unless nothing is left of it. -/
theorem SettledPath.shortPath {path : List Char} (h : SettledPath path) :
    shortPath path = [] ∨ SettledPath (shortPath path) := by
  obtain ⟨segments, last, hSegments, hLast, rfl⟩ := h
  induction segments using List.reverseRecOn generalizing last with
  | nil =>
      by_cases hSome : last = []
      · subst hSome
        exact Or.inl rfl
      · rw [shortPath_pathText hLast hSome]
        exact Or.inr ⟨[], last, hSegments, hLast, rfl⟩
  | append_singleton segments segment ih =>
      by_cases hSome : last = []
      · subst hSome
        have hPath : pathText (segments ++ [segment]) [] = pathText segments segment ++ ['/'] := by
          simp [pathText]
        have hShorter : Url.shortPath (pathText segments segment ++ ['/']) =
            Url.shortPath (pathText segments segment) :=
          List.rdropWhile_concat_pos _ _ _ rfl
        rw [hPath, hShorter]
        exact ih segment (fun other h => hSegments other (by simp [h])) (hSegments segment (by simp))
      · rw [shortPath_pathText hLast hSome]
        exact Or.inr ⟨_, last, hSegments, hLast, rfl⟩

/-- The path of the normal form: what is left without the slashes at the end, or the root. -/
def trimmedPath (path : List Char) : List Char :=
  if shortPath path = [] then ['/'] else shortPath path

theorem SettledPath.trimmedPath {path : List Char} (h : SettledPath path) :
    SettledPath (trimmedPath path) := by
  unfold Url.trimmedPath
  split
  · exact ⟨[], [], by simp, .nil, rfl⟩
  · rename_i hSome
    exact h.shortPath.resolve_left hSome

/-- Reading the path again puts a slash where nothing was left. -/
theorem SettledPath.readPath_shortPath {path : List Char} (h : SettledPath path) :
    readPath (.network port) (Url.shortPath path) = Url.trimmedPath path := by
  unfold Url.trimmedPath
  split
  · rename_i hRoot
    rw [hRoot]
    rfl
  · rename_i hSome
    exact readPath_settled (h.shortPath.resolve_left hSome)

theorem SettledPath.trimmedPath_eq_self {path : List Char} (h : SettledPath path)
    (hKept : ¬(path.length > 1 ∧ path.getLast? = some '/')) : Url.trimmedPath path = path := by
  obtain ⟨segments, last, -, -, rfl⟩ := h
  by_cases hEnd : (pathText segments last).getLast? = some '/'
  · have hShort : ¬(pathText segments last).length > 1 := fun hLong => hKept ⟨hLong, hEnd⟩
    have hRoot : pathText segments last = ['/'] := by
      rw [pathText_eq] at hShort ⊢
      simpa using hShort
    rw [hRoot]
    rfl
  · have hSame : Url.shortPath (pathText segments last) = pathText segments last := by
      rw [Url.shortPath, dropTailWhile_eq_rdropWhile, List.rdropWhile_eq_self_iff]
      intro hSome hSlash
      rw [List.getLast?_eq_some_getLast hSome] at hEnd
      exact hEnd (congrArg some (by simpa using hSlash))
    rw [Url.trimmedPath, hSame]
    exact if_neg (by simp [pathText])

/-- The normal form keeps paths apart that differ in more than slashes at the end. -/
theorem trimmedPath_eq_iff {path other : List Char} :
    trimmedPath path = trimmedPath other ↔ shortPath path = shortPath other := by
  have hRoot : ∀ path, shortPath path ≠ ['/'] := fun path hPath => by
    have hIdempotent : shortPath (shortPath path) = shortPath path :=
      List.rdropWhile_idempotent _ _
    rw [hPath] at hIdempotent
    exact absurd hIdempotent (by decide)
  unfold trimmedPath
  constructor
  · intro h
    split at h <;> split at h
    · rename_i hPath hOther
      rw [hPath, hOther]
    · exact absurd h.symm (hRoot other)
    · exact absurd h (hRoot path)
    · exact h
  · intro h
    rw [h]

end Metasearch.Url
