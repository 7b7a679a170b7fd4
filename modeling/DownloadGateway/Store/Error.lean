import DownloadGateway.Failure
/-!
# What can go wrong in a store
-/

namespace DownloadGateway

/-- An error of a store. -/
inductive StorageError where
  /-- The user has no such blob. Other users' blobs are never told apart from this. -/
  | notFound (id : String)
  | downloadFailed (reason : String)
  | invalidKey (reason : String)
  | backend (reason : String)
  /-- The operating system refused, or what reads in its place; `reason` is its own text, and
  `causes` are the texts of what led to it, the nearest first. -/
  | system (reason : String) (causes : List String)
  | config (reason : String)
  deriving Repr, DecidableEq

namespace StorageError

def message : StorageError → String
  | .notFound id => "Blob not found: " ++ id
  | .downloadFailed reason => "Download failed: " ++ reason
  | .invalidKey reason => "Invalid storage key: " ++ reason
  | .backend reason => "Storage backend error: " ++ reason
  | .system reason _ => "IO error: " ++ reason
  | .config reason => "Configuration error: " ++ reason

/-- The error and what led to it, the nearest first. -/
def chain (e : StorageError) : List String :=
  e.message :: match e with
    | .system reason causes => reason :: causes
    | _ => []

/-- A failure of storage with this error as its cause. -/
def asCause (e : StorageError) (message : String) : Failure := .storage message e.chain

/-- A missing blob stays one; any other error is the server's fault. -/
def toFailure : StorageError → Failure
  | .notFound id => .notFound id
  | e => e.asCause "Blob storage request failed"

end StorageError

end DownloadGateway
