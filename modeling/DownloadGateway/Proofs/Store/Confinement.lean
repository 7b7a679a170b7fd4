import DownloadGateway.Proofs.Store.Directory
/-!
# Keys stay in the directory of their user

What stands on either side of the slash of a key is one component of a path: put below any directory,
a key leads to a name in the directory of its user there. So the parts of a key can be read back from
it, and no two blobs share a key; and as no id ends like the name of a sidecar, contents and sidecars
share none either.
-/

namespace DownloadGateway.Key

variable {user name key : String} {blobId : BlobId}

/-! ## Keys as texts -/

theorem forContent_eq_ok_iff : forContent user blobId = .ok key ↔ check user blobId = .ok () ∧ content user blobId = key := by
  unfold forContent
  cases check user blobId <;> simp [Except.map]

theorem forSidecar_eq_ok_iff : forSidecar user blobId = .ok key ↔ check user blobId = .ok () ∧ sidecar user blobId = key := by
  unfold forSidecar forContent
  cases check user blobId <;> simp [Except.map]

theorem splitOn_slash (huser : '/' ∉ user.toList) (hname : '/' ∉ name.toList) :
    (user ++ "/" ++ name).toList.splitOn '/' = [user.toList, name.toList] := by
  have htext : (user ++ "/" ++ name).toList = user.toList ++ '/' :: name.toList := by simp
  rw [htext, List.splitOn_append_cons_self_of_not_mem huser, List.splitOn_eq_singleton hname]

/-- The parts of a key can be read back from it. -/
theorem parts_inj {user' name' : String} (huser : '/' ∉ user.toList) (hname : '/' ∉ name.toList)
    (huser' : '/' ∉ user'.toList) (hname' : '/' ∉ name'.toList) (h : user ++ "/" ++ name = user' ++ "/" ++ name') :
    user = user' ∧ name = name' := by
  have hparts : [user.toList, name.toList] = [user'.toList, name'.toList] := by
    rw [← splitOn_slash huser hname, h, splitOn_slash huser' hname']
  simpa [String.toList_inj] using hparts

theorem slash_not_mem_sidecar {s : String} (h : '/' ∉ s.toList) : '/' ∉ (s ++ sidecarEnding).toList := by
  rw [String.toList_append]
  exact List.not_mem_append h (by decide)

theorem sidecar_eq (user : String) (blobId : BlobId) :
    sidecar user blobId = user ++ "/" ++ (blobId.value ++ sidecarEnding) := by
  rw [sidecar, content, String.append_assoc]

/-! ## Keys as paths -/

/-- A key is made of two components, and leads from any directory that it is put below to one
name in a directory there. -/
structure LeadsTo (key user name : String) : Prop where
  parts : key.toList.splitOn '/' = [user.toList, name.toList]
  directory : ∀ root : Path, (root.below [user]).location = root.location ++ [user]
  child : ∀ root : Path, (root.below (Path.ofString key).pieces).location = (root.below [user]).location ++ [name]

theorem pieces_ofString (h : key.toList.splitOn '/' = [user.toList, name.toList]) :
    (Path.ofString key).pieces = [user, name] := by
  rw [Path.ofString, h]
  simp

theorem leadsTo_of_isName (huser : Path.IsName user) (hname : Path.IsName name)
    (h : key.toList.splitOn '/' = [user.toList, name.toList]) : LeadsTo key user name where
  parts := h
  directory root := root.location_below (by simpa using huser)
  child root := by
    rw [pieces_ofString h, root.location_below (by simpa using ⟨huser, hname⟩), root.location_below (by simpa using huser)]
    simp

theorem leadsTo_content (h : check user blobId = .ok ()) : LeadsTo (content user blobId) user blobId.value := by
  obtain ⟨huser, hid, -⟩ := check_eq_ok_iff_isComponent.1 h
  exact leadsTo_of_isName huser.isName hid.isName (splitOn_slash huser.no_slash hid.no_slash)

theorem leadsTo_sidecar (h : check user blobId = .ok ()) :
    LeadsTo (sidecar user blobId) user (blobId.value ++ sidecarEnding) := by
  obtain ⟨huser, hid, -⟩ := check_eq_ok_iff_isComponent.1 h
  rw [sidecar_eq]
  exact leadsTo_of_isName huser.isName (isName_sidecar _) (splitOn_slash huser.no_slash (slash_not_mem_sidecar hid.no_slash))

/-! ## Keys of different blobs -/

/-- No two blobs are given the same key. -/
def TellsApart (keyOf : String → BlobId → Except StorageError String) : Prop :=
  ∀ user blobId user' blobId' key, keyOf user blobId = .ok key → keyOf user' blobId' = .ok key →
    user = user' ∧ blobId = blobId'

theorem tellsApart_forContent : TellsApart forContent := by
  intro user blobId user' blobId' key h h'
  obtain ⟨hkey, rfl⟩ := forContent_eq_ok_iff.1 h
  obtain ⟨hkey', heq⟩ := forContent_eq_ok_iff.1 h'
  obtain ⟨huser, hid, -⟩ := check_eq_ok_iff_isComponent.1 hkey
  obtain ⟨huser', hid', -⟩ := check_eq_ok_iff_isComponent.1 hkey'
  have hparts := parts_inj huser.no_slash hid.no_slash huser'.no_slash hid'.no_slash heq.symm
  exact ⟨hparts.1, BlobId.ext hparts.2⟩

theorem tellsApart_forSidecar : TellsApart forSidecar := by
  intro user blobId user' blobId' key h h'
  obtain ⟨hkey, rfl⟩ := forSidecar_eq_ok_iff.1 h
  obtain ⟨hkey', heq⟩ := forSidecar_eq_ok_iff.1 h'
  -- What is left of a sidecar's key without its ending is the key of the content.
  have hcontent : content user' blobId' = content user blobId := sidecar_inj heq
  exact tellsApart_forContent user blobId user' blobId' _ (forContent_eq_ok_iff.2 ⟨hkey, rfl⟩)
    (forContent_eq_ok_iff.2 ⟨hkey', hcontent⟩)

/-- A content is never kept where a sidecar is. -/
theorem content_ne_sidecar {user' : String} {blobId' : BlobId} (h : check user blobId = .ok ())
    (h' : check user' blobId' = .ok ()) : content user blobId ≠ sidecar user' blobId' := by
  obtain ⟨huser, hid, -⟩ := check_eq_ok_iff_isComponent.1 h
  obtain ⟨huser', hid', -⟩ := check_eq_ok_iff_isComponent.1 h'
  intro heq
  rw [sidecar_eq] at heq
  have hparts := parts_inj huser.no_slash hid.no_slash huser'.no_slash (slash_not_mem_sidecar hid'.no_slash) heq
  exact ne_sidecar (check_eq_ok_iff.1 h).2.2 _ hparts.2

/-- The content of a blob has a key exactly if its user and its id are components and the id does not
end like the name of a sidecar, and then its sidecar has one too. A key leads, from any directory, to
a name in the directory of the user there, which is where the store looks. No two contents share a
key, nor do two sidecars, nor a content and a sidecar. -/
theorem keys_confined_and_apart :
    (∀ user blobId, (∃ key, forContent user blobId = .ok key) ↔
      IsComponent user ∧ IsComponent blobId.value ∧ ¬sidecarEnding.toList <:+ blobId.value.toList) ∧
    (∀ user blobId key, forContent user blobId = .ok key →
      IsComponent user ∧ IsComponent blobId.value ∧ LeadsTo key user blobId.value ∧
        ∀ d : DirectoryStore, d.contentPath user blobId = d.root.below (Path.ofString key).pieces) ∧
    (∀ user blobId, (∃ key, forSidecar user blobId = .ok key) ↔ ∃ key, forContent user blobId = .ok key) ∧
    (∀ user blobId key, forSidecar user blobId = .ok key →
      LeadsTo key user (blobId.value ++ sidecarEnding) ∧
        ∀ d : DirectoryStore, d.sidecarPath user blobId = d.root.below (Path.ofString key).pieces) ∧
    TellsApart forContent ∧ TellsApart forSidecar ∧
    ∀ user blobId user' blobId' key, forContent user blobId = .ok key → forSidecar user' blobId' ≠ .ok key := by
  refine ⟨fun user blobId => ?_, fun user blobId key h => ?_, fun user blobId => ?_, fun user blobId key h => ?_,
    tellsApart_forContent, tellsApart_forSidecar, fun user blobId user' blobId' key h h' => ?_⟩
  · simp only [forContent_eq_ok_iff, exists_and_left, exists_eq', and_true, check_eq_ok_iff_isComponent]
  · obtain ⟨hkey, rfl⟩ := forContent_eq_ok_iff.1 h
    obtain ⟨huser, hid, -⟩ := check_eq_ok_iff_isComponent.1 hkey
    have hleads := leadsTo_content hkey
    exact ⟨huser, hid, hleads, fun d => by rw [pieces_ofString hleads.parts]; rfl⟩
  · simp only [forSidecar_eq_ok_iff, forContent_eq_ok_iff, exists_and_left, exists_eq', and_true]
  · obtain ⟨hkey, rfl⟩ := forSidecar_eq_ok_iff.1 h
    have hleads := leadsTo_sidecar hkey
    exact ⟨hleads, fun d => by rw [pieces_ofString hleads.parts]; rfl⟩
  · obtain ⟨hkey, rfl⟩ := forContent_eq_ok_iff.1 h
    obtain ⟨hkey', heq⟩ := forSidecar_eq_ok_iff.1 h'
    exact content_ne_sidecar hkey hkey' heq.symm

/-- An id that ends in a dot has keys, though two dots in a row stand in the name of its sidecar; and
they are keys of nothing else. -/
theorem keys_of_dotted_id :
    let blobId : BlobId := ⟨"a.", by decide⟩
    forContent "u" blobId = .ok "u/a." ∧ forSidecar "u" blobId = .ok "u/a..meta.json" ∧
      LeadsTo "u/a." "u" "a." ∧ LeadsTo "u/a..meta.json" "u" ("a." ++ ".meta.json") ∧
      ∀ user blobId', (forContent user blobId' = .ok "u/a." → user = "u" ∧ blobId' = blobId) ∧
        forSidecar user blobId' ≠ .ok "u/a." := by
  intro blobId
  have hcontent : forContent "u" blobId = .ok "u/a." := by decide +kernel
  have hsidecar : forSidecar "u" blobId = .ok "u/a..meta.json" := by decide +kernel
  obtain ⟨-, hcontents, -, hsidecars, hapart, -, hne⟩ := keys_confined_and_apart
  obtain ⟨-, -, hleads, -⟩ := hcontents "u" blobId _ hcontent
  refine ⟨hcontent, hsidecar, hleads, (hsidecars "u" blobId _ hsidecar).1, fun user blobId' => ⟨fun h => ?_, ?_⟩⟩
  · exact hapart user blobId' "u" blobId _ h hcontent
  · exact hne "u" blobId user blobId' _ hcontent

end DownloadGateway.Key
