import DownloadGateway.Proofs.Store.Directory
/-!
# Whether a blob is there, and what it is

Asking whether a blob is there looks at the file of its content alone; finding it looks at that of
its sidecar too. `looked` says how the two end together, and all that relates them is read off it: a
blob that is missing is missing to both, what keeps the content from being looked at fails both, and
a blob whose sidecar is no good is there, but finding it fails with what is wrong with the sidecar.
-/

namespace DownloadGateway.DirectoryStore

open FileTree

variable {d : DirectoryStore} {t : FileTree} {user : String} {blobId : BlobId} {data : Bytes}

/-- The content type of a blob is what its sidecar holds, or the default if the sidecar is missing. -/
def HasType (d : DirectoryStore) (t : FileTree) (user : String) (blobId : BlobId) (contentType : String) : Prop :=
  t.stat (d.sidecarPath user blobId) = .error .notFound ∧ contentType = "application/octet-stream" ∨
    ∃ bytes, t.stat (d.sidecarPath user blobId) = .ok (.file bytes) ∧ Sidecar.read? bytes = some contentType

/-- What finding a blob gives whose content is in a file: the sidecar decides. -/
inductive Finds (d : DirectoryStore) (t : FileTree) (user : String) (blobId : BlobId) (data : Bytes) :
    Except StorageError Found → Prop
  | found {contentType : String} (htype : d.HasType t user blobId contentType) :
    Finds d t user blobId data (.ok ⟨blobId, data.length, contentType, d.contentPath user blobId⟩)
  | unreadable {fault : FileError} (hread : t.read (d.sidecarPath user blobId) = .error fault)
    (hfault : fault ≠ .notFound) : Finds d t user blobId data (.error (systemError fault))
  | corrupt {bytes : Bytes} (hread : t.read (d.sidecarPath user blobId) = .ok bytes)
    (hcorrupt : Sidecar.read? bytes = none) :
    Finds d t user blobId data (.error (.backend
      ("Corrupt metadata " ++ (d.sidecarPath user blobId).text ++ ": " ++ Sidecar.corrupt)))

/-- How asking whether a blob is there and finding it end, the two of them together. -/
inductive Looked (d : DirectoryStore) (t : FileTree) (user : String) (blobId : BlobId) :
    Except StorageError Bool → Except StorageError Found → Prop
  | noKey {e : StorageError} (hkey : Key.check user blobId = .error e) :
    Looked d t user blobId (.ok false) (.error (.notFound blobId.value))
  | missing (hkey : Key.check user blobId = .ok ())
    (hcontent : t.stat (d.contentPath user blobId) = .error .notFound ∨
      t.stat (d.contentPath user blobId) = .ok .directory) :
    Looked d t user blobId (.ok false) (.error (.notFound blobId.value))
  | blocked {fault : FileError} (hkey : Key.check user blobId = .ok ())
    (hcontent : t.stat (d.contentPath user blobId) = .error fault) (hfault : fault ≠ .notFound) :
    Looked d t user blobId (.error (systemError fault)) (.error (systemError fault))
  | there {data : Bytes} {answer : Except StorageError Found} (hkey : Key.check user blobId = .ok ())
    (hcontent : t.stat (d.contentPath user blobId) = .ok (.file data))
    (hfinds : d.Finds t user blobId data answer) : Looked d t user blobId (.ok true) answer

theorem finds_of_file (hkey : Key.check user blobId = .ok ())
    (hcontent : t.stat (d.contentPath user blobId) = .ok (.file data)) :
    d.Finds t user blobId data (d.find t user blobId).value := by
  rw [value_find_of_key hkey, locate_of_file hcontent]
  unfold contentType
  cases hread : t.read (d.sidecarPath user blobId) with
  | error fault =>
    cases fault with
    | notFound => exact .found (.inl ⟨read_eq_notFound_iff.1 hread, rfl⟩)
    | _ => exact .unreadable hread (by simp)
  | ok bytes =>
    dsimp only
    cases hcorrupt : Sidecar.read? bytes with
    | none => exact .corrupt hread hcorrupt
    | some contentType => exact .found (.inr ⟨bytes, read_eq_ok_iff.1 hread, hcorrupt⟩)

theorem looked (d : DirectoryStore) (t : FileTree) (user : String) (blobId : BlobId) :
    d.Looked t user blobId (d.contains t user blobId).value (d.find t user blobId).value := by
  cases hkey : Key.check user blobId with
  | error e =>
    obtain ⟨reason, hfind⟩ := find_of_error (d := d) hkey
    rw [(hfind t).1, (hfind t).2]
    exact .noKey hkey
  | ok =>
    have hmissing (h : t.stat (d.contentPath user blobId) = .error .notFound ∨
        t.stat (d.contentPath user blobId) = .ok .directory) :
        d.Looked t user blobId (d.contains t user blobId).value (d.find t user blobId).value := by
      rw [value_contains_of_missing hkey h, value_find_of_key hkey, locate_of_missing h]
      exact .missing hkey h
    cases hcontent : t.stat (d.contentPath user blobId) with
    | error fault =>
      by_cases hfault : fault = .notFound
      · exact hmissing (.inl (hfault ▸ hcontent))
      · rw [value_contains_of_error hkey hcontent hfault, value_find_of_key hkey, locate_of_error hcontent hfault]
        exact .blocked hkey hcontent hfault
    | ok e =>
      cases e with
      | directory => exact hmissing (.inr hcontent)
      | file data =>
        rw [value_contains_of_file hkey hcontent]
        exact .there hkey hcontent (finds_of_file hkey hcontent)

theorem Finds.ne_notFound {answer : Except StorageError Found} (h : d.Finds t user blobId data answer) (id : String) :
    answer ≠ .error (.notFound id) := by
  cases h <;> simp [systemError]

/-- Asking whether a blob is there and finding it agree over every tree of files. Finding answers
that it is missing exactly where it is said not to be there. Whether it is there fails exactly where
its content cannot be looked at, for another reason than that it is missing, and finding it fails
with the same error. It is there exactly if it has a valid key and a file holds its content; then it
is found with the size of that file, unless its sidecar cannot be read or is corrupt, which is what
the error says. The default content type stands in for a missing sidecar alone. -/
theorem contains_agrees_with_find (d : DirectoryStore) (t : FileTree) (user : String) (blobId : BlobId) :
    (∀ id, (d.find t user blobId).value = .error (.notFound id) ↔
        (d.contains t user blobId).value = .ok false ∧ id = blobId.value) ∧
      (∀ e, (d.contains t user blobId).value = .error e ↔ Key.check user blobId = .ok () ∧
        ∃ fault, t.stat (d.contentPath user blobId) = .error fault ∧ fault ≠ .notFound ∧ e = systemError fault) ∧
      (∀ e, (d.contains t user blobId).value = .error e → (d.find t user blobId).value = .error e) ∧
      ((d.contains t user blobId).value = .ok true ↔
        Key.check user blobId = .ok () ∧ ∃ data, t.stat (d.contentPath user blobId) = .ok (.file data)) ∧
      (∀ data, (d.contains t user blobId).value = .ok true → t.stat (d.contentPath user blobId) = .ok (.file data) →
        d.Finds t user blobId data (d.find t user blobId).value) ∧
      ∀ found, (d.find t user blobId).value = .ok found → d.HasType t user blobId found.contentType := by
  have h := looked d t user blobId
  generalize (d.contains t user blobId).value = present at h ⊢
  generalize (d.find t user blobId).value = answer at h ⊢
  cases h with
  | noKey hkey => simp [hkey, eq_comm]
  | missing hkey hcontent => rcases hcontent with hcontent | hcontent <;> simp [hkey, hcontent, eq_comm]
  | blocked hkey hcontent hfault => simp [hkey, hcontent, hfault, systemError, eq_comm]
  | there hkey hcontent hfinds =>
    have hne := hfinds.ne_notFound
    refine ⟨by simp [hne], by simp [hcontent], by simp, by simp [hkey, hcontent], fun data' _ hdata => ?_, ?_⟩
    · rw [hcontent] at hdata
      cases hdata
      exact hfinds
    · rintro found rfl
      cases hfinds with
      | found htype => exact htype

/-- A directory in place of a sidecar, a sidecar that is missing, and a file in place of a user's directory. -/
theorem contains_agrees_with_find_locked :
    let d : DirectoryStore := ⟨"s"⟩
    let t : FileTree := ⟨[("s", .directory [("f", .file []), ("u", .directory
      [("b", .file [1, 2]), ("b.meta.json", .directory []), ("c", .file [])])])]⟩
    let b : BlobId := ⟨"b", by decide⟩
    let c : BlobId := ⟨"c", by decide⟩
    let found : Found := ⟨c, 0, "application/octet-stream", d.contentPath "u" c⟩
    (d.contains t "u" b).value = .ok true ∧ t.stat (d.contentPath "u" b) = .ok (.file [1, 2]) ∧
      d.Finds t "u" b [1, 2] (d.find t "u" b).value ∧
      (d.find t "u" c).value = .ok found ∧ d.HasType t "u" c found.contentType ∧
      (d.contains t "f" b).value = .error (systemError .notDirectory) ∧
      (d.find t "f" b).value = .error (systemError .notDirectory) := by
  intro d t b c found
  have hthere : (d.contains t "u" b).value = .ok true := by decide +kernel
  have hcontent : t.stat (d.contentPath "u" b) = .ok (.file [1, 2]) := by decide +kernel
  have hfound : (d.find t "u" c).value = .ok found := by decide +kernel
  have hblocked : (d.contains t "f" b).value = .error (systemError .notDirectory) := by decide +kernel
  obtain ⟨-, -, -, -, hfinds, -⟩ := contains_agrees_with_find d t "u" b
  obtain ⟨-, -, -, -, -, htype⟩ := contains_agrees_with_find d t "u" c
  obtain ⟨-, -, hfails, -⟩ := contains_agrees_with_find d t "f" b
  exact ⟨hthere, hcontent, hfinds _ hthere hcontent, hfound, htype _ hfound, hblocked, hfails _ hblocked⟩

end DownloadGateway.DirectoryStore
