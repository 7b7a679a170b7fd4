import DownloadGateway.Auth.Strategy
import DownloadGateway.DownloadPath
import DownloadGateway.Http.Form
/-!
# Tokens in the query

A download may carry an attachment access token in its query instead of an API key.
Only `GET` requests are looked at, the token must be given once, and it must be
good for the blob that the path names.
-/

namespace DownloadGateway.TokenQuery

/-- The key of the token in the query. -/
def key : String := "access_token"

/-- The token that a request presents. -/
def presented (request : Http.Request) : Except AuthError String :=
  if request.method ≠ "GET" then .error .missing
  else match Http.Form.valuesOf key (request.query.getD "") with
    | [] => .error .missing
    | [token] => .ok token
    | _ => .error (.invalid .unparseableQuery)

/-- The blob that a request names. -/
def requested (request : Http.Request) : Except AuthError BlobId :=
  match (DownloadPath.rawBlobId? request.path).bind BlobId.ofString? with
  | some blobId => .ok blobId
  | none => .error (.invalid .outsideDownload)

/-- The outcome of checking a token. -/
def checked (result : Except TokenError AccessToken) : Except AuthError Identity :=
  match result with
  | .ok token => .ok ⟨token.user, .attachmentToken⟩
  | .error e => .error (.invalid (.token e))

/-- Authenticates by tokens that `verify` accepts for the requested blob. -/
def strategy (verify : String → BlobId → Except TokenError AccessToken) : Strategy :=
  .leaf fun request =>
    match presented request with
    | .error e => pure (.error e)
    | .ok token =>
      match requested request with
      | .error e => pure (.error e)
      | .ok blobId => do
        Traced.call (.verifyToken blobId)
        pure (checked (verify token blobId))

end DownloadGateway.TokenQuery
