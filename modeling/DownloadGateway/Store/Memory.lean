import DownloadGateway.Store.Basic
/-!
# The store in memory

The last blob inserted for a user and an id is the one that is found. A retrieved
blob holds its bytes, so later inserts do not change what it reads.
-/

namespace DownloadGateway

/-- What is kept of a blob. -/
structure StoredBlob where
  contentType : String
  data : Bytes
  deriving Repr, DecidableEq

/-- A store in memory: one blob for each user and id. -/
structure MemoryStore where
  entries : List ((String × BlobId) × StoredBlob)
  deriving DecidableEq

namespace MemoryStore

def empty : MemoryStore := ⟨[]⟩

/-- What is kept for a user and an id. -/
def get? (m : MemoryStore) (user : String) (blobId : BlobId) : Option StoredBlob :=
  (m.entries.find? (·.1 = (user, blobId))).map (·.2)

/-- Keeps a blob in place of the one its user had under this id. -/
def insert (m : MemoryStore) (user : String) (blobId : BlobId) (blob : StoredBlob) : MemoryStore :=
  ⟨((user, blobId), blob) :: m.entries.filter (·.1 ≠ (user, blobId))⟩

/-- Inserts a blob and records it. -/
def put (m : MemoryStore) (user : String) (blobId : BlobId) (blob : StoredBlob) :
    Traced MemoryStore := do
  Traced.log (.blobInserted user blobId blob.data.length)
  pure (m.insert user blobId blob)

/-- The blob of a user, with a snapshot of its bytes. -/
def retrieve (m : MemoryStore) (user : String) (blobId : BlobId) :
    Except StorageError (Blob Bytes) :=
  match m.get? user blobId with
  | some blob => .ok ⟨blobId, blob.data.length, blob.contentType, .ok blob.data⟩
  | none => .error (.notFound blobId.value)

/-- The store as the gateway sees it. -/
def toStore (m : MemoryStore) : BlobStore Bytes where
  backend := .memory
  retrieve blobId identity := pure (m.retrieve identity.user blobId)
  contains blobId identity := pure (.ok (m.get? identity.user blobId).isSome)

/-- An insert changes what is kept for its own user and id, and for no other. -/
theorem get?_insert (m : MemoryStore) (user user' : String) (blobId blobId' : BlobId)
    (blob : StoredBlob) :
    (m.insert user blobId blob).get? user' blobId' =
      if (user', blobId') = (user, blobId) then some blob else m.get? user' blobId' := by
  by_cases h : (user', blobId') = (user, blobId)
  · simp only [h, if_true]
    obtain ⟨rfl, rfl⟩ := Prod.mk.injEq .. ▸ h
    simp [get?, insert]
  · simp only [get?, insert, h, if_false, List.find?_cons, decide_eq_false (Ne.symm h)]
    congr 1
    rw [List.find?_filter]
    refine congrArg (List.find? · m.entries) (funext fun x => ?_)
    by_cases hx : x.1 = (user', blobId')
    · simp [hx, h]
    · simp [hx]

end MemoryStore

end DownloadGateway
