import DownloadGateway.Auth.Strategy
import DownloadGateway.Cors
import DownloadGateway.DownloadPath
import DownloadGateway.Http.Response
import DownloadGateway.Store.Basic
/-!
# Answering one request

The gateway works with a few collaborators, as they are at one moment. Every
endpoint that they serve goes through `handle`: the request is authenticated
first, the endpoint does its work for the identity found, and `finish` turns the
outcome into a response. `finish` is the one place that records outcomes, so there
is one such entry for each request.
-/

namespace DownloadGateway

/-- What the gateway works with. `σ` is the state of the store's byte sources. -/
structure Collaborators (σ : Type) where
  authenticate : Attempt
  store : BlobStore σ
  generate : String → BlobId → Except TokenError AccessToken
  cors : CorsPolicy

/-- What the log tells of a request before it is authenticated. -/
def RequestContext.ofRequest (action : String) (request : Http.Request) : RequestContext where
  action
  method := request.method
  path := request.path
  blobId := DownloadPath.rawBlobId? request.path
  identity := none

/-- The response for an outcome, which is recorded. -/
def RequestContext.finish {σ : Type} (context : RequestContext) :
    Except Failure (Http.Response σ) → Traced (Http.Response σ)
  | .ok response => do
    Traced.log (.handled context response.status)
    pure response
  | .error failure => do
    Traced.log (.failed context failure)
    pure (.ofFailure failure)

namespace Gateway

variable {σ : Type}

/-- Tells who sent a request. -/
def authenticate (c : Collaborators σ) (request : Http.Request) : Step Identity := do
  Traced.call .authenticate
  let identity ← Step.attempt AuthError.toFailure (c.authenticate request)
  Traced.log (.authenticated identity)
  pure identity

/-- Answers a request by what `serve` does for whoever sent it. -/
def handle (action : String) (c : Collaborators σ) (request : Http.Request)
    (serve : Identity → Step (Http.Response σ)) : Traced (Http.Response σ) := do
  let context := RequestContext.ofRequest action request
  match ← (authenticate c request).run with
  | .error failure => context.finish (.error failure)
  | .ok identity => do
    let outcome ← (serve identity).run
    { context with identity := some identity }.finish outcome

end Gateway

end DownloadGateway
