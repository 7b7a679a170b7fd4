/-!
# Failures

Every request that cannot be served ends in a `Failure`. The failure alone fixes
how it is presented: its status, what the client is told, and how loudly it is
logged. Causes are kept for the log only; `client` never mentions them.
-/

namespace DownloadGateway

/-- How loudly an event is logged. -/
inductive Level where
  | debug
  | info
  | warn
  | error
  deriving Repr, DecidableEq

/-- The coarse kinds of failure. -/
inductive Category where
  | unauthorized
  | notFound
  | malformedRequest
  | internal
  deriving Repr, DecidableEq

def Category.name : Category → String
  | .unauthorized => "unauthorized"
  | .notFound => "not_found"
  | .malformedRequest => "malformed_request"
  | .internal => "internal"

/-- Why a request is not served. `causes` are the texts of what led to the
failure, the nearest first. -/
inductive Failure where
  | unauthorized (reason : String)
  | notFound (what : String)
  | badRequest (message : String) (causes : List String)
  | storage (message : String) (causes : List String)
  | internal (reason : String)
  deriving Repr, DecidableEq

namespace Failure

/-- The text of the failure itself, without its causes. -/
def message : Failure → String
  | .unauthorized reason => "Unauthorized: " ++ reason
  | .notFound what => "Not found: " ++ what
  | .badRequest text _ => "Bad request: " ++ text
  | .storage text _ => "Storage error: " ++ text
  | .internal reason => "Internal error: " ++ reason

def causes : Failure → List String
  | .badRequest _ causes | .storage _ causes => causes
  | _ => []

/-- How many causes a log entry spells out. -/
def causeLimit : Nat := 5

/-- The text with its causes, one a line; a mark stands for those beyond the limit. -/
def detail (f : Failure) : String :=
  let shown := (f.causes.take causeLimit).map ("\n  Caused by: " ++ ·)
  let mark := if f.causes.length > causeLimit then "\n  ... (truncated)" else ""
  f.message ++ String.join shown ++ mark

def category : Failure → Category
  | .unauthorized _ => .unauthorized
  | .notFound _ => .notFound
  | .badRequest _ _ => .malformedRequest
  | .storage _ _ | .internal _ => .internal

/-- The status of the response. -/
def status : Failure → Nat
  | .unauthorized _ => 401
  | .notFound _ => 404
  | .badRequest _ _ => 400
  | .storage _ _ | .internal _ => 500

/-- The machine-readable code. -/
def code : Failure → String
  | .unauthorized _ => "UNAUTHORIZED"
  | .notFound _ => "NOT_FOUND"
  | .badRequest _ _ => "BAD_REQUEST"
  | .storage _ _ => "STORAGE_ERROR"
  | .internal _ => "INTERNAL_ERROR"

/-- Whether the details must never reach the client. -/
def isSensitive : Failure → Bool
  | .storage _ _ | .internal _ => true
  | _ => false

/-- What the client is told in the body; nothing for an empty body. -/
def client : Failure → Option String
  | .unauthorized _ | .notFound _ => none
  | .badRequest text _ => some text
  | .storage _ _ | .internal _ => some "Internal server error"

def level : Failure → Level
  | .unauthorized _ | .notFound _ => .info
  | .badRequest _ _ => .warn
  | .storage _ _ | .internal _ => .error

end Failure

end DownloadGateway
