import Metasearch.Url.Idna.ComposeTable
import Metasearch.Url.Idna.CompositionTable

/-!
The composed normal form of a text: characters are taken apart completely, marks are put into
canonical order, and pairs are composed again.
-/

namespace Metasearch.Url.Idna

/-- The combining class of a character; zero for those that begin a new sequence. -/
def combiningClass (c : Char) : Nat :=
  if c.toNat < 0x300 then 0
  else match combiningClassTable.codes? c with
    | some (n :: _) => n
    | _ => 0

/-- The canonical decomposition of one character. Hangul syllables are taken apart by arithmetic. -/
def decompose (c : Char) : List Char :=
  let n := c.toNat
  if n < 0xC0 then [c]
  else if 0xAC00 ≤ n ∧ n ≤ 0xD7A3 then
    let index := n - 0xAC00
    let trail := index % 28
    [Char.ofNat (0x1100 + index / 588), Char.ofNat (0x1161 + index % 588 / 28)] ++
      (if trail = 0 then [] else [Char.ofNat (0x11A7 + trail)])
  else (decomposedTable.get? c).getD [c]

/-- Put a mark behind the marks of no higher class that end the text, given in reverse. -/
def insertMark (c : Char) (cls : Nat) : List (Char × Nat) → List (Char × Nat)
  | [] => [(c, cls)]
  | (d, other) :: before =>
    if cls ≠ 0 ∧ cls < other then (d, other) :: insertMark c cls before
    else (c, cls) :: (d, other) :: before

/-- Characters with their classes, every run of marks sorted by class and otherwise kept in order. -/
def canonicalOrder (cs : List Char) : List (Char × Nat) :=
  (cs.foldl (fun done c => insertMark c (combiningClass c) done) []).reverse

/-- The composite of two characters, if there is one. -/
def composite? (first second : Char) : Option Char :=
  let a := first.toNat
  let b := second.toNat
  if 0x1100 ≤ a ∧ a ≤ 0x1112 ∧ 0x1161 ≤ b ∧ b ≤ 0x1175 then
    some (Char.ofNat (0xAC00 + (a - 0x1100) * 588 + (b - 0x1161) * 28))
  else if 0xAC00 ≤ a ∧ a ≤ 0xD7A3 ∧ (a - 0xAC00) % 28 = 0 ∧ 0x11A8 ≤ b ∧ b ≤ 0x11C2 then
    some (Char.ofNat (a + (b - 0x11A7)))
  else
    let key := a * 0x200000 + b
    match Text.lastAtMost (fun entry => entry.1 * 0x200000 + entry.2.1) compositionTable key none 0
        compositionTable.size (Nat.le_refl _) with
    | some (x, y, z) => if x = a ∧ y = b then some (Char.ofNat z) else none
    | none => none

/-- Compose the rest of a text. `done` is the finished part in reverse, `starter` the character that
later marks may join, `marks` those after it that did not, in reverse, and `last` the class of the
latest of them. -/
def composeFrom (done : List Char) (starter : Option Char) (marks : List Char) (last : Nat) :
    List (Char × Nat) → List Char
  | [] => (marks ++ starter.toList ++ done).reverse
  | (c, cls) :: rest =>
    match starter with
    | none =>
      if cls = 0 then composeFrom done (some c) [] 0 rest else composeFrom (c :: done) none [] 0 rest
    | some s =>
      let joined := if marks.isEmpty || last < cls then composite? s c else none
      match joined with
      | some x => composeFrom done (some x) marks last rest
      | none =>
        if cls = 0 then composeFrom (marks ++ s :: done) (some c) [] 0 rest
        else composeFrom done (some s) (c :: marks) cls rest

/-- The composed normal form. -/
def normalForm (cs : List Char) : List Char :=
  if cs.all (·.toNat < 0x80) then cs
  else composeFrom [] none [] 0 (canonicalOrder (cs.flatMap decompose))

end Metasearch.Url.Idna
