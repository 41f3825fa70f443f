import Metasearch.Document.Record
import Metasearch.Duration

/-!
Durations in documents: a record of `secs` and `nanos`.
-/

namespace Metasearch

open Document

namespace Duration

/-- A duration of seconds and nanoseconds. Nanoseconds that fill seconds are carried over, unless the
seconds then exceed 64 bits. -/
def ofParts? (secs : UInt64) (nanos : UInt32) : Option Duration :=
  ofNanos? (secs.toNat * nanosPerSec + nanos.toNat)

/-- Read a duration. Unlike other records it admits no unknown field. -/
def read (source : Source) (v : Value) : Option Duration := do
  let fields ← asRecord source ["secs", "nanos"] v
  let whole := match v with
    | .table all => all.length == fields.length
    | .date _ => false
    | _ => true
  if !whole then none
  let secs ← fields.required "secs" asUInt64
  let nanos ← fields.required "nanos" asUInt32
  ofParts? secs nanos

def toValue (d : Duration) : Value :=
  .table [("secs", ofUInt64 d.secs), ("nanos", ofNat d.nanos)]

end Duration

end Metasearch
