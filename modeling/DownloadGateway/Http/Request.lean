import DownloadGateway.Http.Headers
import DownloadGateway.Http.Target
import Std.Data.HashSet
/-!
# Requests

What the gateway looks at in a request; the body is never read.
-/

namespace DownloadGateway.Http

/-- A request without its body. -/
structure Request where
  /-- The method, in which case matters. -/
  method : String
  /-- The path as sent, escapes and all. -/
  path : String
  query : Option String
  headers : Headers
  deriving DecidableEq

/-- A field name in lower case. -/
def lowerName (name : String) : String := String.ofList (name.toList.map Char.toLower)

/-- How many names the fields of a request may have before the last field. -/
def maxNames : Nat := 24575

/-- Whether there is room for some fields: none can be added once there are too many
names. -/
def haveRoom (fields : Headers) : Bool :=
  (Std.HashSet.ofList (fields.dropLast.map (·.1))).size ≤ maxNames

/-- The request with the given method, target and fields, if all of them can be sent. -/
def Request.read? (method target : String) (fields : Headers) : Option Request :=
  let fields' := fields.map fun (name, value) => (lowerName name, value)
  if isToken method && fields.all (fun (name, value) => isName name && isLegalValue value)
      && haveRoom fields' then
    (Target.read? target).map fun t => ⟨method, t.path, t.query, fields'⟩
  else none

end DownloadGateway.Http
