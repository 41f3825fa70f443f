/-!
The causes for which the program gives up without an answer. They are limits of what it is built on
that no check of the configuration looks at.
-/

namespace Metasearch

/-- Why there is no answer at all, not even an error. -/
inductive Crash where
  /-- More engines are to be called at once than can be counted. -/
  | permitLimit
  /-- Results are to be kept in the cache for more than a thousand years. -/
  | cacheLifetime
  /-- A latency is to be drawn from an empty range. -/
  | emptyLatencyRange
  /-- A failure is to be drawn with a rate that is no number. -/
  | undefinedFailureRate
  /-- Durations are added up to more than a duration can hold. -/
  | durationOverflow
deriving DecidableEq, Repr

end Metasearch
