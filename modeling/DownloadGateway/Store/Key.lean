import DownloadGateway.Identity
import DownloadGateway.Store.Error
/-!
# Keys of stored blobs

A blob of a user is kept under `<user>/<id>` and its sidecar under
`<user>/<id>.meta.json`. Both parts are single names that cannot lead out of the
store, and no id may look like a sidecar's.
-/

namespace DownloadGateway.Key

/-- What the name of a sidecar ends in. -/
def sidecarEnding : String := ".meta.json"

/-- Whether two dots in a row occur. -/
def hasTwoDots : List Char → Bool
  | [] => false
  | [_] => false
  | a :: b :: cs => (a == '.' && b == '.') || hasTwoDots (b :: cs)

/-- Whether a text is one name that stays inside its directory. -/
def isSegment (s : String) : Bool :=
  let cs := s.toList
  cs ≠ [] && cs ≠ ['.'] && !hasTwoDots cs &&
    cs.all fun c => c != '/' && c != '\\' && c.toNat != 0

/-- The error for a text that is no such name. -/
def segmentError (s : String) : StorageError :=
  .invalidKey ("Storage key segment '" ++ s ++ "' contains invalid characters")

/-- The error for an id that a sidecar could have. -/
def collisionError : StorageError := .invalidKey "Blob id collides with metadata suffix"

/-- Whether a text ends like the name of a sidecar. -/
def endsAsSidecar (s : String) : Bool := sidecarEnding.toList.isSuffixOf s.toList

/-- Whether a blob of a user can be kept; the first fault decides the error. -/
def check (user : String) (blobId : BlobId) : Except StorageError Unit :=
  if !isSegment user then .error (segmentError user)
  else if !isSegment blobId.value then .error (segmentError blobId.value)
  else if endsAsSidecar blobId.value then .error collisionError
  else .ok ()

/-- The key of a blob's content. -/
def content (user : String) (blobId : BlobId) : String := user ++ "/" ++ blobId.value

/-- The key of a blob's sidecar. -/
def sidecar (user : String) (blobId : BlobId) : String := content user blobId ++ sidecarEnding

/-- The key of a blob's content, if the blob can be kept. -/
def forContent (user : String) (blobId : BlobId) : Except StorageError String :=
  (check user blobId).map fun () => content user blobId

/-- The key of a blob's sidecar, if its content has one. -/
def forSidecar (user : String) (blobId : BlobId) : Except StorageError String :=
  (forContent user blobId).map fun _ => sidecar user blobId

/-- The keys of a blob's content and of its sidecar. -/
def forBlob (user : String) (blobId : BlobId) : Except StorageError (String × String) := do
  let contentKey ← forContent user blobId
  let sidecarKey ← forSidecar user blobId
  pure (contentKey, sidecarKey)

end DownloadGateway.Key
