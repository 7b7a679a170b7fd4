import DownloadGateway.Auth.Strategy
import DownloadGateway.Text.Cut
/-!
# API keys

A client presents its key as `Authorization: Bearer <key>`. Only the first value of
the header counts, and the first user with the presented key is who sent the
request.
-/

namespace DownloadGateway.ApiKey

/-- What stands before the key. -/
def scheme : String := "Bearer "

/-- The text of a visible field value. -/
def visibleText (value : Bytes) : List Char := value.map fun b => Char.ofNat b.toNat

/-- The key presented in a field value. -/
def presented (value : Bytes) : Except Rejection String :=
  if Http.isVisible value then
    match Text.after? scheme.toList (visibleText value) with
    | some key => .ok (String.ofList key)
    | none => .error .headerFormat
  else .error .headerNotAscii

/-- The first user with a key. -/
def userOf? (keys : List (String × String)) (key : String) : Option String :=
  (keys.find? (·.2 = key)).map (·.1)

/-- The outcome for a request. -/
def outcome (keys : List (String × String)) (request : Http.Request) : Except AuthError Identity :=
  match request.headers.get? "authorization" with
  | none => .error .missing
  | some value =>
    match presented value with
    | .error rejection => .error (.invalid rejection)
    | .ok key =>
      match userOf? keys key with
      | some user => .ok ⟨user, .apiKey⟩
      | none => .error (.invalid .unknownKey)

/-- Authenticates by pairs of user and key. -/
def strategy (keys : List (String × String)) : Strategy :=
  .leaf fun request => pure (outcome keys request)

end DownloadGateway.ApiKey
