import DownloadGateway.Gateway.Pipeline
/-!
# Issuing access tokens

Whoever may read a blob may have a token for it. The name segment of the path is
accepted and ignored.
-/

namespace DownloadGateway.Gateway

variable {σ : Type}

/-- The response that carries a token. -/
def tokenResponse (token : AccessToken) : Http.Response σ :=
  let text := Utf8.encode token.serialize
  ⟨200, [("content-type", Utf8.encode "text/plain"),
    ("content-length", Utf8.encode (toString text.length))], .bytes text⟩

/-- Makes a token for the blob that a path names. -/
def serveToken (c : Collaborators σ) (path : String) (identity : Identity) :
    Step (Http.Response σ) := do
  let blobId ← Step.ofExcept (DownloadPath.blobIdOf path)
  Traced.call (.contains identity blobId)
  let found ← Step.attempt StorageError.toFailure (c.store.contains blobId identity)
  if !found then
    throw (.notFound blobId.value)
  else
    Traced.call (.generateToken identity.user blobId)
    let token ← Step.attempt TokenError.toFailure (pure (c.generate identity.user blobId))
    Traced.log (.tokenIssued identity.user blobId)
    pure (tokenResponse token)

/-- Answers a request for a token. -/
def issueToken (c : Collaborators σ) (request : Http.Request) : Traced (Http.Response σ) :=
  handle "issue_attachment_token" c request (serveToken c request.path)

end DownloadGateway.Gateway
