import DownloadGateway.Proofs.Store.Device
import DownloadGateway.Proofs.Store.Directory
/-!
# What storing a blob changes

`Ends` lists how a call of `store` can end, on any device. New directories alone change no answer; a
file that is written, or a part of it, changes the answers about one blob. So of all blobs only the
one that is stored is answered anew, and that only once the file of its content is opened.
-/

namespace DownloadGateway.DirectoryStore

open FileTree

variable {d : DirectoryStore} {t t' t₁ t₂ t₃ : FileTree} {user owner x : String} {blobId : BlobId} {identity : Identity}
  {blob : Bytes × String} {content written : Bytes} {device : Device}

/-- How a call of `store` ends: the first stage that fails decides, and what was done before it
stays done. -/
inductive Ends (d : DirectoryStore) (device : Device) (t : FileTree) (user : String) (blobId : BlobId)
    (blob : Bytes × String) : Except StorageError Unit × FileTree → Prop
  | rejected {e : StorageError} (hkey : Key.check user blobId = .error e) :
      Ends d device t user blobId blob (.error e, t)
  | noDirectory {e : FileError} {t₁ : FileTree} (hkey : Key.check user blobId = .ok ())
      (hmake : t.makeDirectories (d.userPath user) device = (.error e, t₁)) :
      Ends d device t user blobId blob (.error (systemError e), t₁)
  | noContent {e : FileError} {t₁ t₂ : FileTree} (hkey : Key.check user blobId = .ok ())
      (hmake : t.makeDirectories (d.userPath user) device = (.ok (), t₁))
      (hcontent : t₁.writeOn device (d.contentPath user blobId) blob.1 = (.error e, t₂)) :
      Ends d device t user blobId blob (.error (systemError e), t₂)
  | unsynced {e : FileError} {t₁ t₂ : FileTree} (hkey : Key.check user blobId = .ok ())
      (hmake : t.makeDirectories (d.userPath user) device = (.ok (), t₁))
      (hcontent : t₁.writeOn device (d.contentPath user blobId) blob.1 = (.ok (), t₂))
      (hsync : t₂.sync device (d.contentPath user blobId) = .error e) :
      Ends d device t user blobId blob (.error (systemError e), t₂)
  | noSidecar {e : FileError} {t₁ t₂ t₃ : FileTree} (hkey : Key.check user blobId = .ok ())
      (hmake : t.makeDirectories (d.userPath user) device = (.ok (), t₁))
      (hcontent : t₁.writeOn device (d.contentPath user blobId) blob.1 = (.ok (), t₂))
      (hsidecar : t₂.writeOn device (d.sidecarPath user blobId) (Sidecar.write blob.2) = (.error e, t₃)) :
      Ends d device t user blobId blob (.error (systemError e), t₃)
  | done {t₁ t₂ t₃ : FileTree} (hkey : Key.check user blobId = .ok ())
      (hmake : t.makeDirectories (d.userPath user) device = (.ok (), t₁))
      (hcontent : t₁.writeOn device (d.contentPath user blobId) blob.1 = (.ok (), t₂))
      (hsidecar : t₂.writeOn device (d.sidecarPath user blobId) (Sidecar.write blob.2) = (.ok (), t₃)) :
      Ends d device t user blobId blob (.ok (), t₃)

theorem ends_store (d : DirectoryStore) (device : Device) (t : FileTree) (user : String) (blobId : BlobId)
    (blob : Bytes × String) : d.Ends device t user blobId blob (d.store t user blobId blob device) := by
  unfold store
  cases hkey : Key.check user blobId with
  | error e =>
    rw [Key.forBlob_of_error hkey]
    exact .rejected hkey
  | ok =>
  rw [Key.forBlob_of_check hkey]
  dsimp only
  split
  · rename_i hmake
    exact .noDirectory hkey hmake
  rename_i hmake
  split
  · rename_i hcontent
    exact .noContent hkey hmake hcontent
  rename_i hcontent
  split
  · rename_i hsync
    exact .unsynced hkey hmake hcontent hsync
  split
  · rename_i hsidecar
    exact .noSidecar hkey hmake hcontent hsidecar
  · rename_i hsidecar
    exact .done hkey hmake hcontent hsidecar

theorem of_store {outcome : Except StorageError Unit × FileTree} (h : d.store t user blobId blob device = outcome) :
    d.Ends device t user blobId blob outcome := h ▸ ends_store d device t user blobId blob

/-- What has no valid key is not stored, and the tree stays as it is. -/
theorem store_of_rejected {e : StorageError} (h : Key.check user blobId = .error e) :
    d.store t user blobId blob device = (.error e, t) := by
  unfold store
  simp only [Key.forBlob_of_error h]

/-- What is stored on a device is stored as on a sound one. -/
theorem store_of_device (h : d.store t user blobId blob device = (.ok (), t')) :
    d.store t user blobId blob = (.ok (), t') := by
  cases of_store h with
  | done hkey hmake hcontent hsidecar =>
    unfold store
    simp only [Key.forBlob_of_check hkey, makeDirectories_of_device hmake, writeOn_of_write (write_of_device hcontent),
      sync_sound, writeOn_of_write (write_of_device hsidecar)]

/-! ## New directories -/

/-- Whether new directories on the way to the directory of `user` leave the answers about a blob
of `owner` alone. A name that is too long is missing in no directory: it is answered with an error
where the directory is, and as missing where that is missing too. -/
structure Undisturbed (d : DirectoryStore) (t : FileTree) (user owner : String) (blobId : BlobId) : Prop where
  descends : DescendsWhereMissing t.get? [] d.root.pieces
  ownerFits : t.Leads d.root ∨ ¬isTooLong owner
  idFits : owner = user → t.Leads (d.userPath user) ∨ ¬isTooLong blobId.value

/-- In the directory of a user, nothing is new unless it is new itself. -/
theorem stat_of_grown (hgrown : GrownAlong (d.userPath user).pieces t t') (huser : Path.IsName user)
    (hroot : t.Leads d.root) (hdir : owner = user → t.Leads (d.userPath user)) (howner : Path.IsName owner)
    (hx : Path.IsName x) : t'.stat (d.root.below [owner, x]) = t.stat (d.root.below [owner, x]) := by
  refine stat_below_congr (hroot.mono fun l => hgrown.get?_of_some) hroot (by simp [howner, hx]) fun front hfront => ?_
  rcases hgrown.of_leads hroot huser (d.root.location ++ front) with h | ⟨hnone, -, hl⟩
  · exact h
  · rw [List.append_cancel_left hl] at hfront hnone
    rw [((leads_below_iff hroot huser).1 (hdir (List.cons_prefix_cons.1 hfront).1.symm)).2] at hnone
    cases hnone

/-- A user's directory that is missing does not come with that of another. -/
theorem follow_of_other (hgrown : GrownAlong (d.userPath user).pieces t t') (huser : Path.IsName user)
    (hroot : DescendsWhereMissing t.get? [] d.root.pieces) (howner : Path.IsName owner) (hlong : ¬isTooLong owner)
    (hother : owner ≠ user) (h : follow t.get? [] (d.userPath owner).pieces = .error .notFound) :
    follow t'.get? [] (d.userPath owner).pieces = .error .notFound := by
  have hdown : DescendsWhereMissing t.get? [] (d.userPath owner).pieces :=
    hroot.below (List.forall_mem_singleton.2 ⟨hlong, howner.2⟩)
  refine (follow_of_missing hgrown.new (fun l name hl => get?_append_of_none hl _) hdown h).resolve_right fun hdir => ?_
  have hnew : t'.get? (d.userPath owner).location = some .directory := see_of_follow hdir
  have hold : t.get? (d.userPath owner).location = none := get?_of_missing hdown h
  -- So it is one of the new directories, but the way to the other one does not come by it.
  obtain ⟨-, -, front, hfront, hl⟩ := (hgrown (d.userPath owner).location).resolve_left (by simp [hnew, hold])
  rcases Path.of_prefix_below hfront with rfl | ⟨-, rest, hbelow⟩
  · have hsame : (d.root.below [owner]).location = (d.root.below [user]).location := hl
    rw [Path.location_below _ (List.forall_mem_singleton.2 howner),
      Path.location_below _ (List.forall_mem_singleton.2 huser)] at hsame
    exact hother (List.head_eq_of_cons_eq (List.append_cancel_left hsame))
  · have hpieces : (d.userPath owner).pieces = front ++ (rest ++ [owner]) := hbelow [owner]
    rw [hpieces] at h hdown
    have hmissing : follow t.get? [] front = .error .notFound := by
      cases hf : follow t.get? [] front with
      | ok e =>
        have := see_of_follow hf
        rw [hl] at hold
        simp [hold] at this
      | error e => rw [← follow_append_of_error hf (rest ++ [owner]), h]
    have hup := hdown.of_append hmissing
    have hlonger := (suffix_foldl_step (fun piece hpiece => hup piece (List.mem_append_left _ hpiece))
      (front.foldl Path.step [])).length_le
    have hlength := congrArg List.length hl
    rw [Path.location, hpieces, ← List.append_assoc, List.foldl_append, List.foldl_append, List.foldl_cons,
      howner.step_eq, List.foldl_nil, List.length_reverse, List.length_reverse, List.length_cons] at hlength
    omega

/-- Where a blob's content is missing, no file is in its place once there are more directories. -/
theorem stat_content_of_missing (hgrown : GrownAlong (d.userPath user).pieces t t') (huser : Path.IsName user)
    (hroot : DescendsWhereMissing t.get? [] d.root.pieces) (hlong : t.Leads d.root ∨ ¬isTooLong owner)
    (howner : Path.IsName owner) (hx : Path.IsName x) (hfit : owner = user → ¬isTooLong x)
    (h : t.stat (d.root.below [owner, x]) = .error .notFound) :
    t'.stat (d.root.below [owner, x]) = .error .notFound ∨ t'.stat (d.root.below [owner, x]) = .ok .directory := by
  obtain ⟨hfault, hfollow⟩ := stat_eq_notFound_iff.1 h
  have hlong : ¬isTooLong owner := by
    refine hlong.elim (fun hleads hlong => ?_) id
    rw [follow_below_cons hleads, if_pos hlong] at hfollow
    cases hfollow
  rw [stat_eq_ok_iff, stat_eq_notFound_iff, and_iff_right hfault, and_iff_right hfault]
  by_cases hother : owner = user
  · have hdown : DescendsWhereMissing t.get? [] (d.root.below [owner, x]).pieces :=
      hroot.below (by simp [hlong, hfit hother, howner.2, hx.2])
    exact follow_of_missing hgrown.new (fun l name hl => get?_append_of_none hl _) hdown hfollow
  · by_cases hleads : t.Leads d.root
    · rw [← stat_of_grown hgrown huser hleads (fun h => absurd h hother) howner hx] at h
      exact .inl (stat_eq_notFound_iff.1 h).2
    · have hpieces : (d.root.below [owner, x]).pieces = (d.userPath owner).pieces ++ [x] := by
        rw [← userPath_below howner, Path.below]
        simp [userPath, Path.below, howner.ne_empty]
      rw [hpieces] at hfollow ⊢
      have hbefore : follow t.get? [] (d.userPath owner).pieces = .error .notFound := by
        cases hf : follow t.get? [] (d.userPath owner).pieces with
        | ok e => exact absurd (leads_of_follow_below (List.cons_ne_nil _ _) hf) hleads
        | error e => rw [← follow_append_of_error hf [x], hfollow]
      exact .inl (follow_append_of_error (follow_of_other hgrown huser hroot howner hlong hother hbefore) [x])

theorem answers_of_grown (hgrown : GrownAlong (d.userPath user).pieces t t') (huser : Path.IsName user)
    (hundisturbed : d.Undisturbed t user identity.user blobId) :
    (d.toStore t').answers blobId identity = (d.toStore t).answers blobId identity := by
  cases hkey : Key.check identity.user blobId with
  | error e => rw [answers_of_rejected hkey, answers_of_rejected hkey]
  | ok =>
    obtain ⟨howner, hid⟩ := isName_of_key hkey
    by_cases hold : t.Leads d.root ∧ (identity.user = user → t.Leads (d.userPath user))
    · obtain ⟨hroot, hdir⟩ := hold
      exact answers_congr fun _ => ⟨stat_of_grown hgrown huser hroot hdir howner hid,
        stat_of_grown hgrown huser hroot hdir howner (Key.isName_sidecar _)⟩
    -- The directory of the blob is not there, so neither is the blob.
    cases hstat : t.stat (d.contentPath identity.user blobId) with
    | ok e =>
      obtain ⟨hroot, hdir, -⟩ := leads_of_found hkey hstat
      exact absurd ⟨hroot, fun h => h ▸ hdir⟩ hold
    | error e =>
      by_cases he : e = .notFound
      · subst he
        have hfit : identity.user = user → ¬isTooLong blobId.value := fun hid =>
          (hundisturbed.idFits hid).resolve_left fun hdir =>
            hold ⟨leads_of_follow_below (List.cons_ne_nil _ _) hdir, fun _ => hdir⟩
        rw [answers_of_missing hkey (.inl hstat),
          answers_of_missing hkey (stat_content_of_missing hgrown huser hundisturbed.descends hundisturbed.ownerFits
            howner hid hfit hstat)]
      · have hstat' : t'.stat (d.contentPath identity.user blobId) = .error e := by
          rw [stat_eq] at hstat ⊢
          split at hstat
          · exact hstat
          · rw [← hstat]
            exact follow_of_grown (fun l e => hgrown.get?_of_some) (by simpa [hstat] using he)
        rw [answers_of_error hkey hstat he, answers_of_error hkey hstat' he]

/-! ## New files -/

/-- The files that hold a blob, by their names in the user's directory. -/
def files (blobId : BlobId) (blob : Bytes × String) : List (String × Bytes) :=
  [(blobId.value, blob.1), (blobId.value ++ Key.sidecarEnding, Sidecar.write blob.2)]

/-- The name of a file that is written for a blob. -/
theorem isName_of_file (hkey : Key.check user blobId = .ok ()) (hfile : (x, content) ∈ files blobId blob) :
    Path.IsName x := by
  simp only [files, List.mem_cons, Prod.mk.injEq, List.not_mem_nil, or_false] at hfile
  rcases hfile with ⟨rfl, -⟩ | ⟨rfl, -⟩
  · exact (isName_of_key hkey).2
  · exact Key.isName_sidecar _

/-- A file that was written stands where no directory was, and nothing else moves. -/
theorem get?_of_write (hleads : t.Leads (d.userPath user)) (huser : Path.IsName user) (hx : Path.IsName x)
    (hwrite : t.write (d.root.below [user, x]) content = .ok t') :
    t.get? (d.root.location ++ [user, x]) ≠ some .directory ∧
      ∀ l, t'.get? l = if l = d.root.location ++ [user, x] then some (.file content) else t.get? l := by
  rw [← userPath_below huser] at hwrite
  obtain ⟨-, -, hfree, hset⟩ := of_write_child hleads hx hwrite
  rw [userPath, Path.location_below _ (List.forall_mem_singleton.2 huser), List.append_assoc] at hfree hset
  exact ⟨hfree, hset⟩

/-- A file that was written into a user's directory stands there, and all other files are what
they were. -/
theorem stat_of_write (hleads : t.Leads (d.userPath user)) (huser : Path.IsName user) (hx : Path.IsName x)
    (hwrite : t.write (d.root.below [user, x]) content = .ok t') :
    t'.Leads (d.userPath user) ∧ t'.stat (d.root.below [user, x]) = .ok (.file content) ∧
      ∀ u y, Path.IsName u → Path.IsName y → (u, y) ≠ (user, x) →
        t'.stat (d.root.below [u, y]) = t.stat (d.root.below [u, y]) := by
  obtain ⟨hfree, hset⟩ := get?_of_write hleads huser hx hwrite
  have hstay : ∀ l, t.get? l = some .directory → t'.get? l = some .directory := by
    intro l hl
    rw [hset, if_neg (by rintro rfl; exact hfree hl), hl]
  have hleads' := hleads.mono hstay
  have hroot : t.Leads d.root := leads_of_follow_below (List.cons_ne_nil _ _) hleads
  refine ⟨hleads', ?_, fun u y hu hy hne => ?_⟩
  · rw [← userPath_below huser] at hwrite ⊢
    obtain ⟨hfault, hlong, -, hset⟩ := of_write_child hleads hx hwrite
    rw [stat_child hleads' hx, hfault, hset, if_pos rfl, if_neg hlong]
  · refine stat_below_congr (hroot.mono hstay) hroot (by simp [hu, hy]) fun front hfront => ?_
    rw [hset, if_neg]
    intro hl
    rw [List.append_cancel_left hl, List.cons_prefix_cons, List.cons_prefix_cons] at hfront
    exact hne (by rw [hfront.1, hfront.2.1])

/-! ## The blob that is stored -/

/-- A call that succeeds leaves both files of the blob. -/
theorem files_of_done (hdone : d.store t user blobId blob device = (.ok (), t')) :
    Key.check user blobId = .ok () ∧ t'.stat (d.contentPath user blobId) = .ok (.file blob.1) ∧
      t'.stat (d.sidecarPath user blobId) = .ok (.file (Sidecar.write blob.2)) := by
  cases of_store hdone with
  | done hkey hmake hcontent hsidecar =>
    obtain ⟨huser, hname⟩ := isName_of_key hkey
    have hleads := (of_makeDirectories t (d.userPath user) device).2
    rw [hmake] at hleads
    obtain ⟨hleads', hstat, -⟩ := stat_of_write (hleads rfl) huser hname (write_of_device hcontent)
    obtain ⟨-, hmeta, hothers⟩ := stat_of_write hleads' huser (Key.isName_sidecar _) (write_of_device hsidecar)
    refine ⟨hkey, ?_, hmeta⟩
    rw [contentPath, hothers _ _ huser hname ?_]
    · exact hstat
    · intro h
      exact Key.ne_sidecar (Key.check_eq_ok_iff.1 hkey).2.2 _ (Prod.mk.inj h).2

theorem contentType_of_written {text : String}
    (h : t.stat (d.sidecarPath user blobId) = .ok (.file (Sidecar.write text))) :
    d.contentType t user blobId = .ok text := by
  unfold contentType FileTree.read
  rw [h]
  dsimp only
  rw [Sidecar.read?_write]

/-- A blob that was stored is found as it was given. -/
theorem answers_of_done (hid : identity.user = user) (hdone : d.store t user blobId blob device = (.ok (), t')) :
    (d.toStore t').answers blobId identity = (.ok true, .ok ⟨blobId, blob.1.length, blob.2, .ok blob.1⟩) := by
  subst hid
  obtain ⟨hkey, hcontent, hsidecar⟩ := files_of_done hdone
  rw [answers_of_file hkey hcontent, contentType_of_written hsidecar]
  rfl

/-! ## All else -/

/-- What new directories keep, and then what a device can leave of each file of a blob, is kept by a
call of `store`, whatever becomes of it. -/
theorem store_keeps {P : FileTree → Prop} (ht : P t)
    (hgrown : ∀ t', Path.IsName user → GrownAlong (d.userPath user).pieces t t' → P t')
    (hwrite : ∀ t₁ t₂ x content written, Key.check user blobId = .ok () → (x, content) ∈ files blobId blob →
      device.Leaves content written → t₁.Leads (d.userPath user) →
      t₁.write (d.root.below [user, x]) written = .ok t₂ → P t₁ → P t₂) :
    P (d.store t user blobId blob device).2 := by
  have hmade := of_makeDirectories t (d.userPath user) device
  have hends := ends_store d device t user blobId blob
  generalize d.store t user blobId blob device = outcome at hends
  -- Each file is written in the directory of the user, over what was kept so far.
  have hfile : ∀ {t₁ t₂ x content result}, Key.check user blobId = .ok () → (x, content) ∈ files blobId blob →
      t₁.Leads (d.userPath user) ∧ P t₁ → t₁.writeOn device (d.root.below [user, x]) content = (result, t₂) →
      t₂.Leads (d.userPath user) ∧ P t₂ := by
    intro t₁ t₂ x content result hkey hmem hbefore h
    have hafter := writeOn_keeps device (d.root.below [user, x]) content
      (P := fun t => t.Leads (d.userPath user) ∧ P t) hbefore fun written t' hleaves hwritten =>
        ⟨(stat_of_write hbefore.1 (isName_of_key hkey).1 (isName_of_file hkey hmem) hwritten).1,
          hwrite _ _ _ _ _ hkey hmem hleaves hbefore.1 hwritten hbefore.2⟩
    rwa [h] at hafter
  cases hends with
  | rejected hkey => exact ht
  | noDirectory hkey hmake =>
    rw [hmake] at hmade
    exact hgrown _ (isName_of_key hkey).1 hmade.1
  | noContent hkey hmake hcontent
  | unsynced hkey hmake hcontent =>
    rw [hmake] at hmade
    have hfirst := hgrown _ (isName_of_key hkey).1 hmade.1
    exact (hfile hkey (by simp [files]) ⟨hmade.2 rfl, hfirst⟩ hcontent).2
  | noSidecar hkey hmake hcontent hsidecar
  | done hkey hmake hcontent hsidecar =>
    rw [hmake] at hmade
    have hfirst := hgrown _ (isName_of_key hkey).1 hmade.1
    exact (hfile hkey (by simp [files]) (hfile hkey (by simp [files]) ⟨hmade.2 rfl, hfirst⟩ hcontent) hsidecar).2

theorem leads_store (hroot : t.Leads d.root) : (d.store t user blobId blob device).2.Leads d.root := by
  refine store_keeps hroot (fun t' _ hgrown => hroot.mono fun l => hgrown.get?_of_some) ?_
  intro t₁ t₂ x content written hkey hfile _ hleads hwrite _
  exact leads_of_follow_below (List.cons_ne_nil _ _)
    (stat_of_write hleads (isName_of_key hkey).1 (isName_of_file hkey hfile) hwrite).1

/-- No other blob has a file of this blob's. -/
theorem answers_of_write (hleads : t.Leads (d.userPath user)) (hkey : Key.check user blobId = .ok ())
    {blobId' : BlobId} (hother : (identity.user, blobId') ≠ (user, blobId))
    (hfile : (x, content) ∈ files blobId blob)
    (hwrite : t.write (d.root.below [user, x]) written = .ok t') :
    (d.toStore t').answers blobId' identity = (d.toStore t).answers blobId' identity := by
  obtain ⟨-, -, hothers⟩ := stat_of_write hleads (isName_of_key hkey).1 (isName_of_file hkey hfile) hwrite
  refine answers_congr fun hkey' => ?_
  obtain ⟨huser', hid'⟩ := isName_of_key hkey'
  have hne := Key.ne_sidecar (Key.check_eq_ok_iff.1 hkey).2.2
  have hne' := Key.ne_sidecar (Key.check_eq_ok_iff.1 hkey').2.2
  simp only [files, List.mem_cons, Prod.mk.injEq, List.not_mem_nil, or_false] at hfile
  have hdiffer : identity.user = user → blobId'.value ≠ blobId.value := fun hu hb =>
    hother (by rw [hu, BlobId.ext hb])
  constructor
  · refine hothers _ _ huser' hid' fun h => ?_
    obtain ⟨hu, hb⟩ := Prod.mk.inj h
    rcases hfile with ⟨rfl, -⟩ | ⟨rfl, -⟩
    · exact hdiffer hu hb
    · exact hne' _ hb
  · refine hothers _ _ huser' (Key.isName_sidecar _) fun h => ?_
    obtain ⟨hu, hb⟩ := Prod.mk.inj h
    rcases hfile with ⟨rfl, -⟩ | ⟨rfl, -⟩
    · exact hne _ hb.symm
    · exact hdiffer hu (Key.sidecar_inj hb)

/-- A call of `store`, whatever becomes of it, changes no answer about another blob. -/
theorem answers_of_other {blobId' : BlobId} (hother : (identity.user, blobId') ≠ (user, blobId))
    (hundisturbed : d.Undisturbed t user identity.user blobId') :
    (d.toStore (d.store t user blobId blob device).2).answers blobId' identity =
      (d.toStore t).answers blobId' identity := by
  refine store_keeps (P := fun t' => (d.toStore t').answers blobId' identity = _) rfl ?_ ?_
  · intro t' huser hgrown
    exact answers_of_grown hgrown huser hundisturbed
  · intro t₁ t₂ x content written hkey hfile _ hleads hwrite ht₁
    rw [answers_of_write hleads hkey hother hfile hwrite, ht₁]

end DownloadGateway.DirectoryStore
