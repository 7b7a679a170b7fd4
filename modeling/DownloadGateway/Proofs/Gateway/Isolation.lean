import DownloadGateway.Proofs.Store.Puts
import DownloadGateway.Proofs.Token.Confinement
/-!
# Users do not see each other's blobs

A store is asked for the one who was authenticated and for nobody else. What it answers for a user
depends on that user's part of it alone: on the entries of the user in memory, on the user's
directory on disk. So whatever other users store, the user is answered the same.
-/

namespace DownloadGateway

/-! ## A user's part of a store -/

/-- Two stores of one kind, with the trees of their files, that have the same blobs of a user. Of two
trees, this means that the base directory is there in both, and that they agree at the user's
directory and below. -/
inductive Repository.AgreeFor (user : String) : Repository → FileTree → Repository → FileTree → Prop
  | memory {m m' : MemoryStore} {t t' : FileTree} (h : ∀ blobId, m.get? user blobId = m'.get? user blobId) :
      AgreeFor user (.memory m) t (.memory m') t'
  | directory {d : DirectoryStore} {t t' : FileTree} (hroot : t.isDirectory d.root = true)
      (hroot' : t'.isDirectory d.root = true)
      (h : ∀ l, t.get? (d.root.location ++ user :: l) = t'.get? (d.root.location ++ user :: l)) :
      AgreeFor user (.directory d) t (.directory d) t'

namespace DirectoryStore

open FileTree

variable {d : DirectoryStore} {t t' : FileTree} {user other : String} {blobId : BlobId} {blob : Bytes × String}
  {device : Device}

/-- A call of `store` for one user does not touch the directory of another. -/
theorem get?_store_of_other (hroot : t.Leads d.root) (hne : other ≠ user) (l : Location) :
    (d.store t other blobId blob device).2.get? (d.root.location ++ user :: l) =
      t.get? (d.root.location ++ user :: l) := by
  have hdiffer : ∀ m, d.root.location ++ user :: l ≠ d.root.location ++ other :: m := fun m h =>
    hne (List.head_eq_of_cons_eq (List.append_cancel_left h)).symm
  refine store_keeps (P := fun t' => t'.get? (d.root.location ++ user :: l) = _) rfl ?_ ?_
  · intro t' hname hgrown
    exact (hgrown.of_leads hroot hname _).resolve_right fun ⟨_, _, h⟩ => hdiffer [] h
  · intro t₁ t₂ x content written hkey hfile _ hleads hwrite ht₁
    rw [(get?_of_write hleads (isName_of_key hkey).1 (isName_of_file hkey hfile) hwrite).2, if_neg (hdiffer [x]), ht₁]

end DirectoryStore

namespace Repository

open FileTree

variable {user : String} {r r' : Repository} {t t' : FileTree} {identity : Identity}

theorem AgreeFor.backend (h : AgreeFor user r t r' t') : (r.toStore t).backend = (r'.toStore t').backend := by
  cases h <;> rfl

/-- Stores that have the same blobs of a user cannot be told apart by asking for the user. -/
theorem AgreeFor.toStore_congr (h : AgreeFor identity.user r t r' t') (blobId : BlobId) :
    (r.toStore t).retrieve blobId identity = (r'.toStore t').retrieve blobId identity ∧
      (r.toStore t).contains blobId identity = (r'.toStore t').contains blobId identity := by
  cases h with
  | memory h =>
    simp only [toStore, MemoryStore.toStore, MemoryStore.retrieve, h, and_self]
  | @directory d _ _ hroot hroot' h =>
    refine DirectoryStore.toStore_congr fun hkey => ?_
    obtain ⟨huser, hid⟩ := DirectoryStore.isName_of_key hkey
    have hleads := (isDirectory_iff.1 hroot).2
    have hleads' := (isDirectory_iff.1 hroot').2
    have hfile : ∀ x, Path.IsName x →
        t.stat (d.root.below [identity.user, x]) = t'.stat (d.root.below [identity.user, x]) := by
      intro x hx
      refine stat_below_congr hleads hleads' (by simp [huser, hx]) fun front hfront => ?_
      cases front with
      | nil => rw [List.append_nil, get?_of_leads hleads, get?_of_leads hleads']
      | cons name front =>
        obtain rfl : name = identity.user := (List.cons_prefix_cons.1 hfront).1
        exact h front
    exact ⟨hfile _ hid, hfile _ (Key.isName_sidecar _)⟩

theorem agreeFor_put (m : MemoryStore) {other : String} (hne : other ≠ user) (blobId : BlobId) (blob : StoredBlob)
    (t : FileTree) : AgreeFor user (.memory (m.put other blobId blob).value) t (.memory m) t := by
  refine .memory fun blobId' => ?_
  have hdiffer : (user, blobId') ≠ (other, blobId) := fun h => hne (Prod.mk.inj h).1.symm
  exact (m.get?_insert ..).trans (if_neg hdiffer)

theorem agreeFor_store {d : DirectoryStore} (hroot : t.isDirectory d.root = true) {other : String} (hne : other ≠ user)
    (blobId : BlobId) (blob : Bytes × String) (device : Device := .sound) :
    AgreeFor user (.directory d) (d.put t other blobId blob device).value.2 (.directory d) t := by
  rw [DirectoryStore.value_put]
  obtain ⟨hfault, hleads⟩ := isDirectory_iff.1 hroot
  exact .directory (isDirectory_iff.2 ⟨hfault, DirectoryStore.leads_store hleads⟩) hroot
    (DirectoryStore.get?_store_of_other hleads hne)

end Repository

/-! ## Responses -/

namespace Gateway

/-- Whoever is authenticated is answered by their own part of the store. Stores that agree for the
user give the same response and the same records to every request, so a blob that is put for
another user, whether this succeeds or not and on any device, makes no difference: it is answered as if it
were not there. -/
theorem user_isolated (service : Service) (clock : Int) (request : Http.Request) {identity : Identity}
    (hi : ((service.strategy clock).authenticate request).value = .ok identity) :
    let answer := fun (r : Repository) (t : FileTree) => respond (service.collaborators clock (r.toStore t)) request
    (∀ r t r' t', Repository.AgreeFor identity.user r t r' t' → answer r t = answer r' t') ∧
    ∀ other blobId, other ≠ identity.user →
      (∀ (m : MemoryStore) (blob : StoredBlob) (t : FileTree),
        answer (.memory (m.put other blobId blob).value) t = answer (.memory m) t) ∧
      ∀ (d : DirectoryStore) (blob : Bytes × String) (device : Device) (t : FileTree), t.isDirectory d.root = true →
        answer (.directory d) (d.put t other blobId blob device).value.2 = answer (.directory d) t := by
  intro answer
  have hagree : ∀ r t r' t', Repository.AgreeFor identity.user r t r' t' → answer r t = answer r' t' := by
    intro r t r' t' h
    have hc : service.collaborators clock (r.toStore t) =
        { service.collaborators clock (r'.toStore t') with store := r.toStore t } := rfl
    -- Only what is recorded is asked, and nothing is recorded but for this identity.
    rw [show answer r t = respond _ request from congrArg (respond · request) hc]
    refine respond_congr_store h.backend (fun identity' blobId hcall => ?_) fun identity' blobId hcall => ?_
    all_goals
      have hsame : identity' = identity := by
        rcases calls_of_service hcall with (h | h | h | ⟨_, h⟩) | ⟨_, _, hi', -, h | ⟨-, h | h⟩⟩ <;> cases h
        exact Except.ok.inj (hi'.symm.trans hi)
      subst hsame
    · exact (h.toStore_congr blobId).1
    · exact (h.toStore_congr blobId).2
  refine ⟨hagree, fun other blobId hne => ⟨fun m blob t => ?_, fun d blob device t hroot => ?_⟩⟩
  · exact hagree _ _ _ _ (Repository.agreeFor_put m hne blobId blob t)
  · exact hagree _ _ _ _ (Repository.agreeFor_store hroot hne blobId blob device)

/-- Alice asks for a blob that only Bob has. -/
theorem user_isolated_from_bob :
    let service : Service := ⟨[("alice", "key"), ("bob", "lock")], ⟨[1], 300⟩, ⟨true, []⟩⟩
    let request : Http.Request := ⟨"GET", "/download/b", none, [("authorization", Utf8.encode "Bearer key")]⟩
    let d : DirectoryStore := ⟨"s"⟩
    let t : FileTree := ⟨[("s", .directory [])]⟩
    let stored := (d.put t "bob" ⟨"b", by decide⟩ ([1, 2], "text/plain")).value
    let answer := fun t => respond (service.collaborators 0 ((Repository.directory d).toStore t)) request
    ((service.strategy 0).authenticate request).value = .ok ⟨"alice", .apiKey⟩ ∧ t.isDirectory d.root = true ∧
      stored.1 = .ok () ∧ answer stored.2 = answer t ∧ (answer t).value.status = 404 := by
  intro service request d t stored answer
  have hi : ((service.strategy 0).authenticate request).value = .ok ⟨"alice", .apiKey⟩ := by decide +kernel
  have hroot : t.isDirectory d.root = true := by decide +kernel
  have hsame : answer stored.2 = answer t :=
    ((user_isolated service 0 request hi).2 "bob" ⟨"b", by decide⟩ (by decide)).2 d ([1, 2], "text/plain") .sound t hroot
  exact ⟨hi, hroot, by decide +kernel, hsame, by decide +kernel⟩

end Gateway

end DownloadGateway
