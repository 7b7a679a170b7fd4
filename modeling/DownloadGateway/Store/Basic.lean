import DownloadGateway.ByteSource
import DownloadGateway.Event
import DownloadGateway.Store.Error
import DownloadGateway.Text.Quoted
/-!
# Blob stores

A store answers two questions about a blob on behalf of an identity: whether there
is one, and what it is. A blob that was retrieved is not open yet; its content is
what opening it will answer.
-/

namespace DownloadGateway

/-- The kinds of store. -/
inductive Backend where
  | directory
  | memory
  deriving Repr, DecidableEq

namespace Backend

def name : Backend → String
  | .directory => "local"
  | .memory => "memory"

/-- The kind of store with a name, in either case. -/
def ofName? (text : String) : Option Backend :=
  let lower := String.ofList (text.toList.map Char.toLower)
  if lower = Backend.directory.name then some .directory
  else if lower = Backend.memory.name then some .memory
  else none

/-- What is said about a text that names no kind of store. -/
def invalidName (text : String) : String := "Invalid storage backend: " ++ text

end Backend

/-- A blob that was found. `σ` is the state of its byte source. -/
structure Blob (σ : Type) where
  id : BlobId
  size : Nat
  contentType : String
  /-- What opening the blob answers. -/
  content : Except StorageError σ

/-- A blob in one line, without its content. -/
def Blob.describe {σ : Type} (b : Blob σ) : String :=
  "Blob \x7b id: BlobId(" ++ Text.quoted b.id.value ++ "), size: " ++ toString b.size
    ++ ", content_type: " ++ Text.quoted b.contentType ++ ", .. \x7d"

/-- What the gateway asks of a store. -/
structure BlobStore (σ : Type) where
  backend : Backend
  retrieve : BlobId → Identity → Traced (Except StorageError (Blob σ))
  contains : BlobId → Identity → Traced (Except StorageError Bool)

/-- Whether retrieving found a blob: not to find one is no error. -/
def StorageError.found {σ : Type} : Except StorageError (Blob σ) → Except StorageError Bool
  | .ok _ => .ok true
  | .error (.notFound _) => .ok false
  | .error e => .error e

/-- A store that finds out whether there is a blob by retrieving it. -/
def BlobStore.ofRetrieve {σ : Type} (backend : Backend)
    (retrieve : BlobId → Identity → Traced (Except StorageError (Blob σ))) : BlobStore σ where
  backend
  retrieve
  contains blobId identity := StorageError.found <$> retrieve blobId identity

end DownloadGateway
