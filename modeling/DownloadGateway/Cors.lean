import DownloadGateway.Event
import DownloadGateway.Http.Headers
/-!
# Cross-origin requests

Browsers let other sites read a response only if its headers allow their origin.
A policy allows any origin or a list of them; the same headers go on preflights
and on the responses of the real requests.
-/

namespace DownloadGateway

/-- Which origins may read responses. -/
structure CorsPolicy where
  allowsAny : Bool
  origins : List Bytes
  deriving Repr, DecidableEq

namespace CorsPolicy

/-- The origin that stands for all. -/
def anyOrigin : String := "*"

/-- The policy for configured origins. Those that no header could carry are left
out, and recorded. -/
def ofOrigins (origins : List String) : Traced CorsPolicy :=
  let listed := origins.filter (· ≠ anyOrigin)
  let legal := fun origin => Http.isLegalValue (Utf8.encode origin)
  ⟨⟨origins.contains anyOrigin, (listed.filter legal).map Utf8.encode⟩,
    (listed.filter (!legal ·)).map fun origin => .log (.originIgnored origin)⟩

/-- The origin that a response to a request allows. -/
def allowed (p : CorsPolicy) (request : Http.Headers) : Option Bytes :=
  if p.allowsAny then some (Utf8.encode anyOrigin)
  else match request.get? "origin" with
    | some origin => if p.origins.contains origin then some origin else none
    | none => none

/-- Adds the headers for a request to those of its response. Where origins are told
apart, caches have to tell them apart too. -/
def apply (p : CorsPolicy) (request response : Http.Headers) : Http.Headers :=
  let response := match p.allowed request with
    | some origin => response.insert "access-control-allow-origin" origin
    | none => response
  let response :=
    if p.allowsAny then response else response.append "vary" (Utf8.encode "Origin")
  let response := response.insert "access-control-allow-methods" (Utf8.encode "GET, POST, OPTIONS")
  response.insert "access-control-allow-headers" (Utf8.encode "Content-Type, Authorization, Accept")

end CorsPolicy

end DownloadGateway
