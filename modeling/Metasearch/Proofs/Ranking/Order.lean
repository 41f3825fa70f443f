import Metasearch.Proofs.Ranking.Completeness
import Metasearch.Proofs.Ranking.TotalOrder

/-! The order of results. They stand by descending score in the total order of doubles, and those of equal
score in the order in which their pages first appear. Results are cut off and numbered only after that. -/
namespace Metasearch.Ranking

section StableSort

variable {α : Type} {le : α → α → Bool} {before : α → α → Prop}

end StableSort

namespace Ranker

variable (ranker : Ranker) (hits : List (EngineId × List RawHit))

/-- Whether opposite infinities meet while the score of a page is added up. -/
def meetsInfinities (key : String) : Bool :=
  ((groups hits).find? (·.key == key)).any fun group => infinitiesMeet (-0.0) (ranker.pairs group)

/-- The bits of the score of a result. -/
def bitsOf (result : MergedResult) : UInt64 :=
  scoreBits result.score (ranker.meetsInfinities hits result.normalizedUrl)

variable {ranker hits}

theorem bitsOf_result {group : Group} (h : group ∈ groups hits) (position : Nat) :
    ranker.bitsOf hits (ranker.result group position) =
      scoreBits (ranker.score group) (infinitiesMeet (-0.0) (ranker.pairs group)) := by
  have hFind := find?_key_of_mem (nodup_key_groups hits) h
  simp only [bitsOf, meetsInfinities, result, hFind, Option.any_some]

end Ranker

end Metasearch.Ranking
