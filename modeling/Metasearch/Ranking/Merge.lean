import Metasearch.Ranking.Score
import Metasearch.Result.Basic
import Metasearch.Text.Blank
import Metasearch.Url.Normal

/-!
Merging the hits of several engines into one ranked list. Hits of one page meet in a group; an engine
that returns a page more than once counts once, at its best rank.
-/

namespace Metasearch.Ranking

/-- The hits of one page, gathered. -/
structure Group where
  key : String
  url : String
  title : String
  snippet : String
  /-- The engines in order of first appearance, each with its best rank. -/
  ranks : List (EngineId × UInt32)

/-- Note a rank of an engine: the better one stays, and a new engine comes last. -/
def noteRank (engine : EngineId) (rank : UInt32) :
    List (EngineId × UInt32) → List (EngineId × UInt32)
  | [] => [(engine, rank)]
  | (e, r) :: rest =>
    if e = engine then (e, min r rank) :: rest else (e, r) :: noteRank engine rank rest

/-- The group of a page's first hit. -/
def Group.ofHit (key : String) (engine : EngineId) (hit : RawHit) : Group :=
  { key, url := Url.normalize hit.url, title := hit.title, snippet := hit.snippet,
    ranks := [(engine, max hit.rank 1)] }

/-- Add a further hit. A blank title gives way to the new one, and a snippet to a longer one. -/
def Group.add (group : Group) (engine : EngineId) (hit : RawHit) : Group :=
  { group with
    ranks := noteRank engine (max hit.rank 1) group.ranks
    title := if Text.isBlankText group.title then hit.title else group.title
    snippet := if hit.snippet.utf8ByteSize > group.snippet.utf8ByteSize then hit.snippet
      else group.snippet }

/-- Put a hit into the group of its key, or into a new one at the end. -/
def putHit (key : String) (engine : EngineId) (hit : RawHit) : List Group → List Group
  | [] => [Group.ofHit key engine hit]
  | group :: rest =>
    if group.key = key then group.add engine hit :: rest else group :: putHit key engine hit rest

/-- Take in one hit; a hit without a URL is dropped. -/
def takeHit (groups : List Group) (entry : EngineId × RawHit) : List Group :=
  if Text.isBlankText entry.2.url then groups
  else putHit (Url.dedupKey entry.2.url) entry.1 entry.2 groups

/-- All hits in the order in which they are taken in, each with the engine it counts for. -/
def hitsInOrder (hits : List (EngineId × List RawHit)) : List (EngineId × RawHit) :=
  hits.flatMap fun (engine, list) => list.map (engine, ·)

/-- The groups of all hits, in the order of their first hits. -/
def groups (hits : List (EngineId × List RawHit)) : List Group :=
  (hitsInOrder hits).foldl takeHit []

/-- How results are scored and how many are kept. -/
structure Ranker where
  weights : List (EngineId × Float) := []
  maxResults : Option Nat := none

namespace Ranker

/-- The weight of an engine: the last one given for it, or one. -/
def weight (ranker : Ranker) (engine : EngineId) : Float :=
  ((ranker.weights.reverse.lookup engine).getD 1.0)

/-- The weights and ranks that a group's score is made of. -/
def pairs (ranker : Ranker) (group : Group) : List (Float × UInt32) :=
  group.ranks.map fun (engine, rank) => (ranker.weight engine, rank)

def score (ranker : Ranker) (group : Group) : Float :=
  combinedScore (ranker.pairs group)

/-- The place of a group's score in the order of scores. -/
def key (ranker : Ranker) (group : Group) : Int :=
  orderKey (ranker.score group) (infinitiesMeet (-0.0) (ranker.pairs group))

/-- The groups by descending score; groups of equal score keep their order. -/
def ranked (ranker : Ranker) (groups : List Group) : List Group :=
  groups.mergeSort fun a b => decide (ranker.key b ≤ ranker.key a)

/-- The result of a group at a position. -/
def result (ranker : Ranker) (group : Group) (position : Nat) : MergedResult :=
  { url := group.url, normalizedUrl := group.key, title := group.title, snippet := group.snippet,
    engines := group.ranks.map (·.1), score := ranker.score group, position }

/-- Merge hits, given engine by engine in order of registration, into one ranked list. -/
def merge (ranker : Ranker) (hits : List (EngineId × List RawHit)) : List MergedResult :=
  let ranked := ranker.ranked (groups hits)
  let kept := match ranker.maxResults with
    | none => ranked
    | some limit => ranked.take limit
  kept.zipIdx.map fun (group, i) => ranker.result group (i + 1)

end Ranker

end Metasearch.Ranking
