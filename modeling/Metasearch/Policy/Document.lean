import Metasearch.Document.Record
import Metasearch.Policy.Suspension

/-!
Suspension policies in documents. A rule is a table that names its strategy in a field of its own, at
any place, or a list that begins with the strategy.
-/

namespace Metasearch

open Document

namespace Backoff

/-- The two strategies by name. -/
inductive Strategy where
  | exponential
  | fixed
deriving DecidableEq, Repr

def Strategy.read : Value → Option Strategy
  | .text "exponential" => some exponential
  | .text "fixed" => some fixed
  | _ => none

/-- Read a rule whose strategy is known from the rest of its content. A list has to have exactly the
fields of the strategy, in either notation. -/
def readContent (strategy : Strategy) (v : Value) : Option Backoff :=
  match strategy with
  | .exponential => do
    let fields ← asRecord .json ["base_secs", "max_secs"] v
    let baseSecs ← fields.required "base_secs" asUInt64
    let maxSecs ← fields.required "max_secs" asUInt64
    return .exponential baseSecs maxSecs
  | .fixed => do
    let fields ← asRecord .json ["secs"] v
    let secs ← fields.required "secs" asUInt64
    return .fixed secs

/-- Read a rule. Its whole content has to be readable, unknown fields included. -/
def read (v : Value) : Option Backoff :=
  if !v.readable then none
  else match v with
    | .table fields =>
      match fields.filter (·.1 == "strategy") with
      | [(_, tag)] => do
        let strategy ← Strategy.read tag
        readContent strategy (.table (fields.filter (·.1 != "strategy")))
      | _ => none
    | .list (tag :: content) => do
      let strategy ← Strategy.read tag
      readContent strategy (.list content)
    | _ => none

def toValue : Backoff → Value
  | exponential baseSecs maxSecs =>
    .table [("strategy", .text "exponential"), ("base_secs", ofUInt64 baseSecs),
      ("max_secs", ofUInt64 maxSecs)]
  | fixed secs => .table [("strategy", .text "fixed"), ("secs", ofUInt64 secs)]

end Backoff

namespace SuspensionPolicy

def fieldNames : List String :=
  ["timeout", "connection_error", "malformed_response", "rate_limited", "captcha", "access_denied"]

/-- Read a policy. A rule that is absent is the one of the default policy. -/
def read (source : Source) (v : Value) : Option SuspensionPolicy := do
  let fields ← asRecord source fieldNames v
  let usual : SuspensionPolicy := {}
  let timeout ← fields.withDefault "timeout" usual.timeout Backoff.read
  let connectionError ←
    fields.withDefault "connection_error" usual.connectionError Backoff.read
  let malformedResponse ←
    fields.withDefault "malformed_response" usual.malformedResponse Backoff.read
  let rateLimited ← fields.withDefault "rate_limited" usual.rateLimited Backoff.read
  let captcha ← fields.withDefault "captcha" usual.captcha Backoff.read
  let accessDenied ← fields.withDefault "access_denied" usual.accessDenied Backoff.read
  return { timeout, connectionError, malformedResponse, rateLimited, captcha, accessDenied }

def toValue (policy : SuspensionPolicy) : Value :=
  .table [("timeout", policy.timeout.toValue),
    ("connection_error", policy.connectionError.toValue),
    ("malformed_response", policy.malformedResponse.toValue),
    ("rate_limited", policy.rateLimited.toValue),
    ("captcha", policy.captcha.toValue),
    ("access_denied", policy.accessDenied.toValue)]

end SuspensionPolicy

end Metasearch
