import DownloadGateway.Gateway.Download
import DownloadGateway.Gateway.IssueToken
import DownloadGateway.Gateway.Route
/-!
# The gateway

`respond` is the whole of what the gateway does with a request: it is led to its
endpoint, cross-origin headers are added, the body is dropped if only the headers
were asked for, and every response leaves with the security headers.
-/

namespace DownloadGateway.Gateway

variable {σ : Type}

/-- Tells that the gateway is up, and on which kind of store. -/
def health (backend : Backend) : Http.Response σ :=
  .text 200 "application/json"
    ("\x7b\"status\":\"healthy\",\"storage\":\"" ++ backend.name ++ "\"\x7d")

/-- Answers a preflight: nobody is authenticated and nothing is looked up. -/
def preflight (policy : CorsPolicy) (request : Http.Request) : Http.Response σ :=
  ⟨200, policy.apply request.headers [], .empty⟩

/-- What an endpoint answers, before cross-origin headers. -/
def runEndpoint (c : Collaborators σ) (request : Http.Request) : Endpoint → Traced (Http.Response σ)
  | .issueToken => issueToken c request
  | .download => download c request
  | .preflight => pure (preflight c.cors request)

/-- The response with the cross-origin headers that its route asks for. -/
def decorate (policy : CorsPolicy) (request : Http.Request) (role : CorsRole)
    (response : Http.Response σ) : Http.Response σ :=
  match role with
  | .decorate => { response with headers := policy.apply request.headers response.headers }
  | .preflight => response

/-- What a request is answered with where it leads. -/
def serve (c : Collaborators σ) (request : Http.Request) : Destination → Traced (Http.Response σ)
  | .endpoint route => do
    let response ← runEndpoint c request route.endpoint
    pure (decorate c.cors request route.cors response).withLength
  | .health => pure (health c.store.backend).withLength
  | .wrongMethod allow =>
    pure (Http.Response.withLength ⟨405, [("allow", Utf8.encode allow)], .empty⟩)
  | .nowhere => pure (.bare 404)
  | .noPath => pure (Http.Response.bare 404).withLength

/-- The response without its body if only the headers were asked for. -/
def withoutBody (request : Http.Request) (response : Http.Response σ) :
    Traced (Http.Response σ) :=
  if request.method = "HEAD" then do
    response.body.drop
    pure { response with body := .empty }
  else pure response

/-- Adds the headers that keep browsers from guessing types and from framing, and
caches from sharing. -/
def secure (headers : Http.Headers) : Http.Headers :=
  let headers := headers.insert "x-content-type-options" (Utf8.encode "nosniff")
  let headers := headers.insert "x-frame-options" (Utf8.encode "DENY")
  let headers := headers.insert "referrer-policy" (Utf8.encode "no-referrer")
  match headers.get? "cache-control" with
  | some _ => headers
  | none => headers.insert "cache-control" (Utf8.encode "private")

/-- Answers a request. -/
def respond (c : Collaborators σ) (request : Http.Request) : Traced (Http.Response σ) := do
  let response ← serve c request (destination request)
  let response ← withoutBody request response
  pure { response with headers := secure response.headers }

end DownloadGateway.Gateway
