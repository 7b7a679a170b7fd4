import DownloadGateway.Gateway.Pipeline
import DownloadGateway.Name.Disposition
/-!
# Serving a blob

The path is resolved, the blob retrieved and opened, and its content streamed. A
blob whose content type no header can carry is given back unread.
-/

namespace DownloadGateway.Gateway

variable {σ : Type}

/-- How many bytes go out at a time. -/
def chunkSize : Nat := 16384

/-- The failure for a header that cannot be sent, as a content type may be. -/
def illegalContentType : Failure :=
  .internal "Failed to build download response: failed to parse header value"

/-- The headers of a download. -/
def downloadHeaders (contentType : String) (size : Nat) (name : Option String) : Http.Headers :=
  [("content-type", Utf8.encode contentType), ("content-length", Utf8.encode (toString size))] ++
    (name.map fun n => ("content-disposition", Utf8.encode (Disposition.attachment n))).toList

/-- The response that streams an open blob, unless its headers cannot be built. -/
def streamResponse (contentType : String) (name : Option String) (stream : BlobStream σ) :
    Traced (Except Failure (Http.Response σ)) :=
  let headers := downloadHeaders contentType stream.declared name
  if headers.all (Http.isLegalValue ·.2) then
    pure (.ok ⟨200, headers, .stream chunkSize stream⟩)
  else
    ⟨.error illegalContentType, stream.release false⟩

/-- Serves the blob that a path names. -/
def serveBlob (c : Collaborators σ) (path : String) (identity : Identity) :
    Step (Http.Response σ) := do
  let target ← Step.ofExcept (DownloadPath.resolve path)
  Traced.call (.retrieve identity target.blobId)
  let blob ← Step.attempt StorageError.toFailure (c.store.retrieve target.blobId identity)
  Traced.call .openContent
  let source ← Step.attempt StorageError.toFailure (pure blob.content)
  ExceptT.mk (streamResponse blob.contentType target.name ⟨source, blob.id, blob.size, 0⟩)

/-- Answers a request for a blob. -/
def download (c : Collaborators σ) (request : Http.Request) : Traced (Http.Response σ) :=
  handle "download" c request (serveBlob c request.path)

end DownloadGateway.Gateway
