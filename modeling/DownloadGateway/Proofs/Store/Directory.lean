import DownloadGateway.Proofs.Store.Key
import DownloadGateway.Proofs.Store.MakeDirectories
import DownloadGateway.Proofs.Store.Sidecar
import DownloadGateway.Store.Directory
/-!
# What the store on disk answers

An answer about a blob depends on what stands at two places of the tree, that of its content
and that of its sidecar, and is given by what stands there.
-/

namespace DownloadGateway

/-- What a store answers about a blob on behalf of an identity: whether there is one, and what
retrieving and opening it gives. -/
def BlobStore.answers {σ : Type} (store : BlobStore σ) (blobId : BlobId) (identity : Identity) :
    Except StorageError Bool × Except StorageError (Blob σ) :=
  ((store.contains blobId identity).value, (store.retrieve blobId identity).value)

namespace DirectoryStore

open FileTree

variable {d : DirectoryStore} {t t' : FileTree} {user : String} {blobId : BlobId} {identity : Identity}
  {data : Bytes} {contentType : String}

/-! ## Operation by operation -/

/-- What has no key is not looked for. -/
theorem find_of_error {e : StorageError} (h : Key.check user blobId = .error e) :
    ∃ reason, ∀ t,
      d.find t user blobId = ⟨.error (.notFound blobId.value), [.log (.blobIdRejected blobId reason)]⟩ ∧
        d.contains t user blobId = ⟨.ok false, [.log (.blobIdRejected blobId reason)]⟩ := by
  obtain ⟨reason, rfl⟩ := Key.of_check_eq_error h
  have hreason : rejection? user blobId = some reason := by
    unfold rejection?
    rw [Key.forBlob_of_error h]
  refine ⟨reason, fun t => ⟨?_, ?_⟩⟩
  · unfold find
    rw [hreason]
    rfl
  · unfold contains
    rw [hreason]
    rfl

theorem rejection?_of_key (h : Key.check user blobId = .ok ()) : rejection? user blobId = none := by
  unfold rejection?
  rw [Key.forBlob_of_check h]

theorem find_of_key (h : Key.check user blobId = .ok ()) (t : FileTree) :
    d.find t user blobId = match d.locate t user blobId with
      | .ok found => ⟨.ok found, [.log (.blobResolved found.path.text found.size found.contentType)]⟩
      | .error e => ⟨.error e, []⟩ := by
  unfold find
  rw [rejection?_of_key h]
  dsimp only
  cases d.locate t user blobId <;> rfl

theorem value_find_of_key (h : Key.check user blobId = .ok ()) (t : FileTree) :
    (d.find t user blobId).value = d.locate t user blobId := by
  rw [find_of_key h]
  cases d.locate t user blobId <;> rfl

theorem contains_of_key (h : Key.check user blobId = .ok ()) (t : FileTree) :
    d.contains t user blobId = ⟨match t.stat (d.contentPath user blobId) with
      | .ok (.file _) => .ok true
      | .ok .directory | .error .notFound => .ok false
      | .error e => .error (systemError e), []⟩ := by
  unfold contains
  rw [rejection?_of_key h]
  rfl

theorem locate_of_file (h : t.stat (d.contentPath user blobId) = .ok (.file data)) :
    d.locate t user blobId = (d.contentType t user blobId).map fun contentType =>
      ⟨blobId, data.length, contentType, d.contentPath user blobId⟩ := by
  unfold locate
  rw [h]

theorem locate_of_missing (h : t.stat (d.contentPath user blobId) = .error .notFound ∨
      t.stat (d.contentPath user blobId) = .ok .directory) :
    d.locate t user blobId = .error (.notFound blobId.value) := by
  unfold locate
  rcases h with h | h <;> rw [h]

theorem locate_of_error {e : FileError} (h : t.stat (d.contentPath user blobId) = .error e) (he : e ≠ .notFound) :
    d.locate t user blobId = .error (systemError e) := by
  unfold locate
  rw [h]
  cases e with
  | notFound => exact absurd rfl he
  | _ => rfl

theorem value_contains_of_file (hkey : Key.check user blobId = .ok ())
    (h : t.stat (d.contentPath user blobId) = .ok (.file data)) : (d.contains t user blobId).value = .ok true := by
  rw [contains_of_key hkey, h]

theorem value_contains_of_missing (hkey : Key.check user blobId = .ok ())
    (h : t.stat (d.contentPath user blobId) = .error .notFound ∨
      t.stat (d.contentPath user blobId) = .ok .directory) : (d.contains t user blobId).value = .ok false := by
  rw [contains_of_key hkey]
  rcases h with h | h <;> rw [h]

theorem value_contains_of_error {e : FileError} (hkey : Key.check user blobId = .ok ())
    (h : t.stat (d.contentPath user blobId) = .error e) (he : e ≠ .notFound) :
    (d.contains t user blobId).value = .error (systemError e) := by
  rw [contains_of_key hkey, h]
  cases e with
  | notFound => exact absurd rfl he
  | _ => rfl

theorem path_of_locate {found : Found} (h : d.locate t user blobId = .ok found) :
    found.path = d.contentPath user blobId := by
  unfold locate at h
  split at h
  · cases hc : d.contentType t user blobId with
    | error e => simp [hc, Except.map] at h
    | ok contentType =>
      rw [hc] at h
      cases h
      rfl
  all_goals cases h

theorem openIn_of_file {found : Found} (h : t.stat found.path = .ok (.file data)) : found.openIn t = .ok data := by
  unfold Found.openIn FileTree.read
  rw [h]

/-- A store that is created adds directories on the way to its base directory, and leads there. -/
theorem of_create {base : String} {device : Device} (h : create t base device = (.ok d, t')) :
    d.base = base ∧ GrownAlong d.root.pieces t t' ∧ t'.Leads d.root := by
  have hmade := of_makeDirectories t (.ofString base) device
  unfold create at h
  split at h
  · rename_i hmake
    rw [hmake] at hmade
    cases h
    exact ⟨rfl, hmade.1, hmade.2 rfl⟩
  · cases h

/-! ## What an answer depends on -/

/-- Trees that agree on two places cannot be told apart by asking for a blob. -/
theorem toStore_congr (h : Key.check identity.user blobId = .ok () →
      t'.stat (d.contentPath identity.user blobId) = t.stat (d.contentPath identity.user blobId) ∧
        t'.stat (d.sidecarPath identity.user blobId) = t.stat (d.sidecarPath identity.user blobId)) :
    (d.toStore t').retrieve blobId identity = (d.toStore t).retrieve blobId identity ∧
      (d.toStore t').contains blobId identity = (d.toStore t).contains blobId identity := by
  simp only [toStore]
  cases hkey : Key.check identity.user blobId with
  | error e =>
    obtain ⟨reason, hfind⟩ := find_of_error (d := d) hkey
    rw [(hfind t').1, (hfind t).1, (hfind t').2, (hfind t).2]
    exact ⟨rfl, rfl⟩
  | ok =>
    obtain ⟨hcontent, hsidecar⟩ := h hkey
    have hlocate : d.locate t' identity.user blobId = d.locate t identity.user blobId := by
      unfold locate contentType FileTree.read
      rw [hcontent, hsidecar]
    rw [find_of_key hkey, find_of_key hkey, contains_of_key hkey, contains_of_key hkey, hlocate, hcontent]
    refine ⟨?_, rfl⟩
    cases hfound : d.locate t identity.user blobId with
    | error e => rfl
    | ok found =>
      have hopen : found.openIn t' = found.openIn t := by
        unfold Found.openIn FileTree.read
        rw [path_of_locate hfound, hcontent]
      refine Traced.ext ?_ rfl
      simp only [Traced.value_map, Except.map, Found.toBlob, hopen]

theorem answers_congr (h : Key.check identity.user blobId = .ok () →
      t'.stat (d.contentPath identity.user blobId) = t.stat (d.contentPath identity.user blobId) ∧
        t'.stat (d.sidecarPath identity.user blobId) = t.stat (d.sidecarPath identity.user blobId)) :
    (d.toStore t').answers blobId identity = (d.toStore t).answers blobId identity := by
  obtain ⟨hretrieve, hcontains⟩ := toStore_congr h
  rw [BlobStore.answers, BlobStore.answers, hretrieve, hcontains]

/-! ## What is answered -/

theorem answers_eq (d : DirectoryStore) (t : FileTree) (blobId : BlobId) (identity : Identity) :
    (d.toStore t).answers blobId identity =
      ((d.contains t identity.user blobId).value, (d.find t identity.user blobId).value.map (·.toBlob t)) := by
  simp only [BlobStore.answers, toStore, Traced.value_map]

/-- What has no valid key is not there. -/
theorem answers_of_rejected {e : StorageError} (h : Key.check identity.user blobId = .error e) :
    (d.toStore t).answers blobId identity = (.ok false, .error (.notFound blobId.value)) := by
  obtain ⟨reason, hfind⟩ := find_of_error (d := d) h
  rw [answers_eq, (hfind t).1, (hfind t).2]
  rfl

/-- A blob is there if a file holds its content. -/
theorem answers_of_file (hkey : Key.check identity.user blobId = .ok ())
    (hcontent : t.stat (d.contentPath identity.user blobId) = .ok (.file data)) :
    (d.toStore t).answers blobId identity =
      (.ok true, (d.contentType t identity.user blobId).map fun contentType =>
        ⟨blobId, data.length, contentType, .ok data⟩) := by
  rw [answers_eq, value_contains_of_file hkey hcontent, value_find_of_key hkey, locate_of_file hcontent]
  cases d.contentType t identity.user blobId with
  | error e => rfl
  | ok contentType =>
    have hopen : (Found.mk blobId data.length contentType (d.contentPath identity.user blobId)).openIn t = .ok data :=
      openIn_of_file hcontent
    simp only [Except.map, Found.toBlob, hopen]

/-- A blob is not there if its content is missing, or a directory is in its place. -/
theorem answers_of_missing (hkey : Key.check identity.user blobId = .ok ())
    (hcontent : t.stat (d.contentPath identity.user blobId) = .error .notFound ∨
      t.stat (d.contentPath identity.user blobId) = .ok .directory) :
    (d.toStore t).answers blobId identity = (.ok false, .error (.notFound blobId.value)) := by
  rw [answers_eq, value_contains_of_missing hkey hcontent, value_find_of_key hkey, locate_of_missing hcontent]
  rfl

/-- What keeps the content from being looked at keeps the blob from being found, or missed. -/
theorem answers_of_error {e : FileError} (hkey : Key.check identity.user blobId = .ok ())
    (hcontent : t.stat (d.contentPath identity.user blobId) = .error e) (he : e ≠ .notFound) :
    (d.toStore t).answers blobId identity = (.error (systemError e), .error (systemError e)) := by
  rw [answers_eq, value_contains_of_error hkey hcontent he, value_find_of_key hkey, locate_of_error hcontent he]
  rfl

/-! ## Where the files of a blob are -/

/-- The parts of a valid key are names. -/
theorem isName_of_key (h : Key.check user blobId = .ok ()) : Path.IsName user ∧ Path.IsName blobId.value := by
  obtain ⟨huser, hid, -⟩ := Key.check_eq_ok_iff_isComponent.1 h
  exact ⟨huser.isName, hid.isName⟩

/-- The path to the content of a blob is refused only if it is too long. -/
theorem fault?_contentPath (hkey : Key.check user blobId = .ok ()) (hroot : fault? d.root = none)
    (hfit : (d.contentPath user blobId).text.utf8ByteSize ≤ maxPath) : fault? (d.contentPath user blobId) = none := by
  obtain ⟨huser, hid, -⟩ := Key.check_eq_ok_iff.1 hkey
  refine fault?_below hroot ?_ hfit
  simpa using ⟨Key.toNat_ne_zero_of_isSegment huser, Key.toNat_ne_zero_of_isSegment hid⟩

theorem userPath_below (h : Path.IsName user) (names : List String) :
    (d.userPath user).below names = d.root.below (user :: names) :=
  Path.below_below _ h.ne_empty _

/-- A blob that is there is in the directory of its user. -/
theorem leads_of_found {e : Entry} (hkey : Key.check user blobId = .ok ())
    (h : t.stat (d.contentPath user blobId) = .ok e) :
    t.Leads d.root ∧ t.Leads (d.userPath user) ∧ ¬isTooLong user ∧ ¬isTooLong blobId.value := by
  obtain ⟨huser, hid⟩ := isName_of_key hkey
  have hfollow := (stat_eq_ok_iff.1 h).2
  rw [contentPath, ← userPath_below huser] at hfollow
  have hleads : t.Leads (d.userPath user) := leads_of_follow_below (List.cons_ne_nil _ _) hfollow
  have hroot : t.Leads d.root := leads_of_follow_below (List.cons_ne_nil _ _) hleads
  rw [follow_below hleads] at hfollow
  exact ⟨hroot, hleads, ((leads_below_iff hroot huser).1 hleads).1, (of_follow_cons_eq_ok hfollow).2.1⟩

end DirectoryStore

end DownloadGateway
