import DownloadGateway.BlobStream
import DownloadGateway.Http.Headers
/-!
# Responses

The body of a response is either bytes at hand, which go out in one frame, or a
stream that is read only as far as the client takes it.
-/

namespace DownloadGateway.Http

/-- The body of a response. -/
inductive Body (σ : Type) where
  | bytes (content : Bytes)
  | stream (chunkSize : Nat) (stream : BlobStream σ)

namespace Body

variable {σ : Type}

def empty : Body σ := .bytes []

/-- The length of a body, where it is known without reading it. -/
def length? : Body σ → Option Nat
  | .bytes content => some content.length
  | .stream _ _ => none

/-- Gives a body up unread. -/
def drop : Body σ → Traced Unit
  | .bytes _ => pure ()
  | .stream _ s => ⟨(), s.release false⟩

/-- What a client receives that takes at most `limit` frames. -/
def deliver [ByteSource σ] (limit : Option Nat) : Body σ → Traced Delivery
  | .bytes content => pure ⟨if content = [] ∨ limit = some 0 then [] else [content], none⟩
  | .stream chunkSize s => s.deliver chunkSize limit

end Body

/-- A response. -/
structure Response (σ : Type) where
  status : Nat
  headers : Headers
  body : Body σ

namespace Response

variable {σ : Type}

/-- A response without headers or body. -/
def bare (status : Nat) : Response σ := ⟨status, [], .empty⟩

/-- A response with a text as its body. -/
def text (status : Nat) (contentType body : String) : Response σ :=
  ⟨status, [("content-type", Utf8.encode contentType)], .bytes (Utf8.encode body)⟩

/-- The response to a request that failed. -/
def ofFailure (f : Failure) : Response σ :=
  match f.client with
  | some message => text f.status "text/plain; charset=utf-8" message
  | none => bare f.status

/-- The response with the length of its body among the headers, unless it has one
or the length is not known. -/
def withLength (r : Response σ) : Response σ :=
  match r.headers.get? "content-length", r.body.length? with
  | none, some n =>
    { r with headers := r.headers.append "content-length" (Utf8.encode (toString n)) }
  | _, _ => r

end Response

end DownloadGateway.Http
