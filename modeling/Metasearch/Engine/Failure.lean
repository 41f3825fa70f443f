/-!
How a call of an engine can fail. Such a failure is an ordinary outcome, never an error of the search.
-/

namespace Metasearch

/-- The kinds of failure. The suspension policy has a rule for each. -/
inductive FailureKind where
  /-- No answer within the time allowed. -/
  | timeout
  /-- The engine could not be reached. -/
  | connectionError
  /-- The engine asked for a proof of being human. -/
  | captcha
  /-- The engine refused the request. -/
  | accessDenied
  /-- The engine was asked too often. -/
  | rateLimited
  /-- The answer could not be understood. -/
  | malformedResponse
deriving DecidableEq, Repr

namespace FailureKind

/-- Every kind, in order of declaration. -/
def all : List FailureKind :=
  [timeout, connectionError, captcha, accessDenied, rateLimited, malformedResponse]

/-- The short text shown to a reader. -/
def label : FailureKind → String
  | timeout => "timeout"
  | connectionError => "connection error"
  | captcha => "CAPTCHA"
  | accessDenied => "access denied"
  | rateLimited => "too many requests"
  | malformedResponse => "parsing error"

/-- The name used in documents. -/
def name : FailureKind → String
  | timeout => "timeout"
  | connectionError => "connection_error"
  | captcha => "captcha"
  | accessDenied => "access_denied"
  | rateLimited => "rate_limited"
  | malformedResponse => "malformed_response"

end FailureKind

/-- A failed call with its detail. -/
structure EngineError where
  kind : FailureKind
  message : String
deriving DecidableEq, Repr

namespace EngineError

/-- What a reader is shown of a failure. -/
def display (error : EngineError) : String :=
  error.kind.label ++ ": " ++ error.message

def timeout (message : String) : EngineError := ⟨.timeout, message⟩

def connection (message : String) : EngineError := ⟨.connectionError, message⟩

def malformed (message : String) : EngineError := ⟨.malformedResponse, message⟩

end EngineError

end Metasearch
