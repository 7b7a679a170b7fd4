import DownloadGateway.Store.Basic
/-!
# A store of prescribed answers

Each id has a blob whose reads are scripted, or an error for whoever retrieves it.
Users are not told apart. It serves to drive the gateway into every outcome.
-/

namespace DownloadGateway

/-- What the table answers for each id. -/
structure TableStore where
  answers : List (BlobId × Except StorageError (Blob Script))

namespace TableStore

/-- The table with an answer for an id, or without one. -/
def set (t : TableStore) (blobId : BlobId) (answer : Option (Except StorageError (Blob Script))) :
    TableStore :=
  ⟨(answer.map (blobId, ·)).toList ++ t.answers.filter (·.1 ≠ blobId)⟩

/-- The answer for an id. -/
def get (t : TableStore) (blobId : BlobId) : Except StorageError (Blob Script) :=
  match t.answers.find? (·.1 = blobId) with
  | some (_, answer) => answer
  | none => .error (.notFound blobId.value)

/-- The table as the gateway sees it. Every look-up is a call. -/
def toStore (t : TableStore) : BlobStore Script :=
  .ofRetrieve .memory fun blobId _ => do
    Traced.call (.lookUp blobId)
    pure (t.get blobId)

end TableStore

end DownloadGateway
