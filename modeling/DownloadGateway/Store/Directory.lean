import DownloadGateway.Store.Basic
import DownloadGateway.Store.FileTree
import DownloadGateway.Store.Key
import DownloadGateway.Store.Sidecar
/-!
# The store on disk

Below its base directory the store keeps a directory for each user, and in it the
content of each blob and a sidecar with its content type. The operations take the
tree of files as it is at that moment.

An id that makes no valid key names no blob, so looking for it finds nothing. A
missing sidecar means the default content type, but one that cannot be read is
always an error.
-/

namespace DownloadGateway

/-- A store below a directory. -/
structure DirectoryStore where
  /-- The text of the base directory, as configured. -/
  base : String
  deriving Repr, DecidableEq

namespace DirectoryStore

/-- The base directory. -/
def root (d : DirectoryStore) : Path := .ofString d.base

/-- The directory of a user. -/
def userPath (d : DirectoryStore) (user : String) : Path := d.root.below [user]

/-- The file that holds a blob's content. -/
def contentPath (d : DirectoryStore) (user : String) (blobId : BlobId) : Path :=
  d.root.below [user, blobId.value]

/-- The sidecar of a blob. -/
def sidecarPath (d : DirectoryStore) (user : String) (blobId : BlobId) : Path :=
  d.root.below [user, blobId.value ++ Key.sidecarEnding]

/-- Opens a store, making its base directory if need be. -/
def create (t : FileTree) (base : String) (device : Device := .sound) :
    Except StorageError DirectoryStore × FileTree :=
  match t.makeDirectories (.ofString base) device with
  | (.ok (), t) => (.ok ⟨base⟩, t)
  | (.error e, t) =>
    (.error (.config ("Failed to create storage directory " ++ base ++ ": " ++ e.message)), t)

/-- An error of the operating system as one of the store. -/
def systemError (e : FileError) : StorageError := .system e.message []

/-- Writes a blob: its directory, its content, its sidecar. What was done before an
error stays done. -/
def store (d : DirectoryStore) (t : FileTree) (user : String) (blobId : BlobId)
    (blob : Bytes × String) (device : Device := .sound) : Except StorageError Unit × FileTree :=
  let (data, contentType) := blob
  match Key.forBlob user blobId with
  | .error e => (.error e, t)
  | .ok _ =>
    match t.makeDirectories (d.userPath user) device with
    | (.error e, t) => (.error (systemError e), t)
    | (.ok (), t) =>
      match t.writeOn device (d.contentPath user blobId) data with
      | (.error e, t) => (.error (systemError e), t)
      | (.ok (), t) =>
        match t.sync device (d.contentPath user blobId) with
        | .error e => (.error (systemError e), t)
        | .ok () =>
          match t.writeOn device (d.sidecarPath user blobId) (Sidecar.write contentType) with
          | (.error e, t) => (.error (systemError e), t)
          | (.ok (), t) => (.ok (), t)

/-- Writes a blob and records it. -/
def put (d : DirectoryStore) (t : FileTree) (user : String) (blobId : BlobId)
    (blob : Bytes × String) (device : Device := .sound) :
    Traced (Except StorageError Unit × FileTree) :=
  let outcome := d.store t user blobId blob device
  let path := (d.contentPath user blobId).text
  match outcome.1 with
  | .ok () => ⟨outcome, [.log (.blobWritten path (Key.content user blobId) blob.1.length)]⟩
  | .error _ => ⟨outcome, []⟩

/-- A blob on disk that was found. -/
structure Found where
  id : BlobId
  size : Nat
  contentType : String
  /-- The file that holds the content. -/
  path : Path
  deriving DecidableEq

/-- The content type of a blob whose sidecar is missing. -/
def defaultContentType : String := "application/octet-stream"

/-- The content type that a blob's sidecar holds. -/
def contentType (d : DirectoryStore) (t : FileTree) (user : String) (blobId : BlobId) :
    Except StorageError String :=
  match t.read (d.sidecarPath user blobId) with
  | .ok bytes =>
    match Sidecar.read? bytes with
    | some text => .ok text
    | none =>
      let path := (d.sidecarPath user blobId).text
      .error (.backend ("Corrupt metadata " ++ path ++ ": " ++ Sidecar.corrupt))
  | .error .notFound => .ok defaultContentType
  | .error e => .error (systemError e)

/-- Looks at the file of a blob whose key is valid. -/
def locate (d : DirectoryStore) (t : FileTree) (user : String) (blobId : BlobId) :
    Except StorageError Found :=
  match t.stat (d.contentPath user blobId) with
  | .ok (.file data) =>
    (d.contentType t user blobId).map fun contentType =>
      ⟨blobId, data.length, contentType, d.contentPath user blobId⟩
  | .ok .directory | .error .notFound => .error (.notFound blobId.value)
  | .error e => .error (systemError e)

/-- The reason why a blob has no key. -/
def rejection? (user : String) (blobId : BlobId) : Option String :=
  match Key.forBlob user blobId with
  | .error (.invalidKey reason) => some reason
  | _ => none

/-- Finds a blob of a user. -/
def find (d : DirectoryStore) (t : FileTree) (user : String) (blobId : BlobId) :
    Traced (Except StorageError Found) :=
  match rejection? user blobId with
  | some reason => do
    Traced.log (.blobIdRejected blobId reason)
    pure (.error (.notFound blobId.value))
  | none =>
    match d.locate t user blobId with
    | .ok found => do
      Traced.log (.blobResolved found.path.text found.size found.contentType)
      pure (.ok found)
    | .error e => pure (.error e)

/-- Opens the content of a blob that was found, as it is by now. -/
def Found.openIn (f : Found) (t : FileTree) : Except StorageError Bytes :=
  match t.read f.path with
  | .ok data => .ok data
  | .error e => .error (.downloadFailed ("Failed to open file " ++ f.path.text ++ ": " ++ e.message))

/-- A found blob, its content as it is in a tree. -/
def Found.toBlob (f : Found) (t : FileTree) : Blob Bytes :=
  ⟨f.id, f.size, f.contentType, f.openIn t⟩

/-- Whether a user has a blob. -/
def contains (d : DirectoryStore) (t : FileTree) (user : String) (blobId : BlobId) :
    Traced (Except StorageError Bool) :=
  match rejection? user blobId with
  | some reason => do
    Traced.log (.blobIdRejected blobId reason)
    pure (.ok false)
  | none =>
    pure <| match t.stat (d.contentPath user blobId) with
      | .ok (.file _) => .ok true
      | .ok .directory | .error .notFound => .ok false
      | .error e => .error (systemError e)

/-- The store as the gateway sees it while the tree stays as it is. -/
def toStore (d : DirectoryStore) (t : FileTree) : BlobStore Bytes where
  backend := .directory
  retrieve blobId identity :=
    (·.map (·.toBlob t)) <$> d.find t identity.user blobId
  contains blobId identity := d.contains t identity.user blobId

end DirectoryStore

end DownloadGateway
