/-!
Scores of results. Every engine that returned a page contributes its weight, damped by the rank it gave
the page, and the contributions are added.
-/

namespace Metasearch.Ranking

/-- How much the damping grows with each rank. -/
def decayStep : Float := 0.1

/-- The damping of a rank: one for the first, decreasing with every further one. Rank zero counts as
the first. -/
def decay (rank : UInt32) : Float :=
  1.0 / (1.0 + (max rank 1 - 1).toFloat * decayStep)

/-- What one engine contributes to a score. -/
def contribution (weight : Float) (rank : UInt32) : Float :=
  weight * decay rank

/-- The sum of contributions, added from left to right. The start is minus zero, which no addition
can tell from nothing. -/
def combinedScore (pairs : List (Float × UInt32)) : Float :=
  pairs.foldl (fun sum pair => sum + contribution pair.1 pair.2) (-0.0)

/-- Whether opposite infinities meet while contributions are added, before any of them is undefined.
The sum is then undefined, but it ranks below all others instead of above them. -/
def infinitiesMeet (sum : Float) : List (Float × UInt32) → Bool
  | [] => false
  | (weight, rank) :: rest =>
    let next := contribution weight rank
    if sum.isNaN then false
    else if next.isNaN then false
    else if (sum + next).isNaN then true
    else infinitiesMeet (sum + next) rest

/-- The place of a score in the order of all doubles: minus infinity first, minus zero below zero,
infinity last. An undefined score comes after all of them, or before all of them if infinities met. -/
def orderKey (score : Float) (met : Bool) : Int :=
  if score.isNaN then if met then -(UInt64.size : Int) else (UInt64.size : Int)
  else
    let bits := score.toBits.toNat
    if bits < UInt64.size / 2 then bits else -((bits - UInt64.size / 2 : Nat) : Int) - 1

end Metasearch.Ranking
