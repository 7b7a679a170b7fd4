import DownloadGateway.Failure
/-!
# Blobs and users

The id of a blob is any text that is not empty; only a store gives it meaning.
An identity is a user together with the way in which they proved it.
-/

namespace DownloadGateway

/-- The id of a stored blob. -/
structure BlobId where
  value : String
  ne_empty : value ≠ ""
  deriving DecidableEq

namespace BlobId

/-- The id with the given text, unless that is empty. -/
def ofString? (value : String) : Option BlobId :=
  if h : value ≠ "" then some ⟨value, h⟩ else none

/-- The failure for an empty id. -/
def emptyFailure : Failure := .badRequest "Blob id must not be empty" []

/-- The id with the given text; an empty one is a bad request. -/
def ofString (value : String) : Except Failure BlobId :=
  match ofString? value with
  | some id => .ok id
  | none => .error emptyFailure

theorem ext {id id' : BlobId} (h : id.value = id'.value) : id = id' := by
  cases id
  cases id'
  simp_all

theorem ofString?_eq_some_iff {value : String} {id : BlobId} :
    ofString? value = some id ↔ id.value = value := by
  constructor
  · intro h
    unfold ofString? at h
    split at h <;> simp_all
    exact h ▸ rfl
  · rintro rfl
    simp [ofString?, id.ne_empty]

end BlobId

/-- How an identity was established. -/
inductive AuthMethod where
  | apiKey
  | attachmentToken
  deriving Repr, DecidableEq

def AuthMethod.name : AuthMethod → String
  | .apiKey => "api_key"
  | .attachmentToken => "attachment_token"

/-- An authenticated user. -/
structure Identity where
  user : String
  method : AuthMethod
  deriving Repr, DecidableEq

end DownloadGateway
