import DownloadGateway.Proofs.Store.Storing
import DownloadGateway.Store.Memory
/-!
# Puts, one after the other

A store in memory answers with the last put for a user and an id (`get?_putAll`). A store on disk
that answers like one in memory goes on to do so while the same puts succeed on both
(`answers_of_putAll?`).
-/

namespace DownloadGateway

/-- A blob that is put into a store for a user. -/
structure Put where
  user : String
  blobId : BlobId
  contentType : String
  data : Bytes
  deriving DecidableEq

namespace Put

/-- What is kept of a blob that was put. -/
def stored (p : Put) : StoredBlob := ⟨p.contentType, p.data⟩

/-- The last of some puts for a user and an id. -/
def last? (puts : List Put) (user : String) (blobId : BlobId) : Option Put :=
  puts.reverse.find? fun p => (p.user, p.blobId) = (user, blobId)

theorem last?_cons (p : Put) (puts : List Put) (user : String) (blobId : BlobId) :
    last? (p :: puts) user blobId =
      (last? puts user blobId).or (if (p.user, p.blobId) = (user, blobId) then some p else none) := by
  rw [last?, last?, List.reverse_cons, List.find?_append, List.find?_singleton]
  simp only [decide_eq_true_eq]

theorem last?_isSome_iff {puts : List Put} {user : String} {blobId : BlobId} :
    (last? puts user blobId).isSome = true ↔ ∃ p ∈ puts, p.user = user ∧ p.blobId = blobId := by
  rw [last?, List.find?_isSome]
  simp

/-- Behind the last put for a user and an id there is none. -/
theorem of_last?_eq_some {puts : List Put} {user : String} {blobId : BlobId} {p : Put}
    (h : last? puts user blobId = some p) :
    (p.user, p.blobId) = (user, blobId) ∧
      ∃ earlier later, puts = earlier ++ p :: later ∧ last? later user blobId = none := by
  obtain ⟨hkey, later, earlier, hputs, hlater⟩ := List.find?_eq_some_iff_append.1 h
  refine ⟨by simpa using hkey, earlier.reverse, later.reverse, ?_, ?_⟩
  · rw [← List.reverse_reverse puts, hputs]
    simp
  · rw [last?, List.reverse_reverse]
    exact List.find?_eq_none.2 fun q hq => by simpa [imp_iff_not_or] using hlater q hq

end Put

/-! ## In memory -/

namespace MemoryStore

/-- The store after some puts. -/
def putAll (m : MemoryStore) (puts : List Put) : MemoryStore :=
  puts.foldl (fun m p => (m.put p.user p.blobId p.stored).value) m

theorem putAll_cons (m : MemoryStore) (p : Put) (puts : List Put) :
    m.putAll (p :: puts) = (m.insert p.user p.blobId p.stored).putAll puts := rfl

/-- What is kept is the last that was put. -/
theorem get?_putAll (m : MemoryStore) (puts : List Put) (user : String) (blobId : BlobId) :
    (m.putAll puts).get? user blobId = ((Put.last? puts user blobId).map Put.stored).or (m.get? user blobId) := by
  induction puts generalizing m with
  | nil => rfl
  | cons p puts ih =>
    rw [putAll_cons, ih, get?_insert, Put.last?_cons]
    by_cases h : (user, blobId) = (p.user, p.blobId)
    · rw [if_pos h, if_pos h.symm]
      cases Put.last? puts user blobId <;> rfl
    · rw [if_neg h, if_neg (Ne.symm h), Option.or_none]

theorem answers_eq (m : MemoryStore) (blobId : BlobId) (identity : Identity) :
    m.toStore.answers blobId identity =
      match m.get? identity.user blobId with
      | some blob => (.ok true, .ok ⟨blobId, blob.data.length, blob.contentType, .ok blob.data⟩)
      | none => (.ok false, .error (.notFound blobId.value)) := by
  simp only [BlobStore.answers, toStore, retrieve]
  cases m.get? identity.user blobId <;> rfl

end MemoryStore

/-! ## On disk -/

namespace DirectoryStore

open FileTree

variable {d : DirectoryStore} {t t' : FileTree} {puts : List Put} {identity : Identity} {blobId : BlobId}
  {device : Device}

theorem value_put (d : DirectoryStore) (t : FileTree) (user : String) (blobId : BlobId) (blob : Bytes × String)
    (device : Device) : (d.put t user blobId blob device).value = d.store t user blobId blob device := by
  unfold put
  dsimp only
  split <;> rfl

/-- The tree after a put, if that succeeds. -/
def putOne? (d : DirectoryStore) (t : FileTree) (p : Put) : Option FileTree :=
  match (d.put t p.user p.blobId (p.data, p.contentType)).value with
  | (.ok (), t) => some t
  | (.error _, _) => none

/-- The tree after some puts, if each of them succeeds. -/
def putAll? (d : DirectoryStore) (t : FileTree) (puts : List Put) : Option FileTree := puts.foldlM d.putOne? t

theorem putOne?_eq_some_iff {p : Put} :
    d.putOne? t p = some t' ↔ d.store t p.user p.blobId (p.data, p.contentType) = (.ok (), t') := by
  unfold putOne?
  rw [value_put]
  split
  · rename_i t₁ hstore
    rw [hstore]
    simp
  · rename_i e t₁ hstore
    rw [hstore]
    simp

/-- A put that succeeds, on whatever device, is one that succeeds on a sound one. -/
theorem putOne?_of_device {p : Put}
    (h : (d.put t p.user p.blobId (p.data, p.contentType) device).value = (.ok (), t')) : d.putOne? t p = some t' :=
  putOne?_eq_some_iff.2 (store_of_device (by rwa [value_put] at h))

theorem of_putAll?_cons {p : Put} (h : d.putAll? t (p :: puts) = some t') :
    ∃ t₁, d.store t p.user p.blobId (p.data, p.contentType) = (.ok (), t₁) ∧ d.putAll? t₁ puts = some t' := by
  rw [putAll?, List.foldlM_cons, Option.bind_eq_bind, Option.bind_eq_some_iff] at h
  obtain ⟨t₁, hput, hrest⟩ := h
  exact ⟨t₁, putOne?_eq_some_iff.1 hput, hrest⟩

theorem of_putAll?_append {puts' : List Put} (h : d.putAll? t (puts ++ puts') = some t') :
    ∃ t₁, d.putAll? t puts = some t₁ ∧ d.putAll? t₁ puts' = some t' := by
  rw [putAll?, List.foldlM_append, Option.bind_eq_bind, Option.bind_eq_some_iff] at h
  exact h

/-- A store on disk that answers about a blob like one in memory still does after the same puts. -/
theorem answers_of_putAll? {m : MemoryStore} (hroot : t.Leads d.root) (hputs : d.putAll? t puts = some t')
    (hfit : Key.check identity.user blobId = .ok () → ¬isTooLong blobId.value)
    (h : (d.toStore t).answers blobId identity = m.toStore.answers blobId identity) :
    (d.toStore t').answers blobId identity = (m.putAll puts).toStore.answers blobId identity := by
  induction puts generalizing t m with
  | nil =>
    cases hputs
    exact h
  | cons p puts ih =>
    obtain ⟨t₁, hstore, hrest⟩ := of_putAll?_cons hputs
    obtain ⟨hkey, hfile, -⟩ := files_of_done hstore
    rw [MemoryStore.putAll_cons]
    refine ih (leads_of_found hkey hfile).1 hrest ?_
    rw [MemoryStore.answers_eq, MemoryStore.get?_insert]
    by_cases hsame : (identity.user, blobId) = (p.user, p.blobId)
    · obtain ⟨huser, rfl⟩ := Prod.mk.inj hsame
      rw [if_pos hsame, answers_of_done huser hstore]
      rfl
    · rw [if_neg hsame, ← MemoryStore.answers_eq, ← h]
      cases hkey' : Key.check identity.user blobId with
      | error e => rw [answers_of_rejected hkey', answers_of_rejected hkey']
      | ok =>
        have hothers : (d.toStore (d.store t p.user p.blobId (p.data, p.contentType)).2).answers blobId identity = _ :=
          answers_of_other hsame ⟨hroot.whereMissing, .inl hroot, fun _ => .inr (hfit hkey')⟩
        rwa [hstore] at hothers

/-- After some puts that succeed, whatever was there before, the last one for a user and an id is
what is found. -/
theorem answers_of_last? {p : Put} (hputs : d.putAll? t puts = some t')
    (hlast : Put.last? puts identity.user blobId = some p) :
    (d.toStore t').answers blobId identity = (.ok true, .ok ⟨blobId, p.data.length, p.contentType, .ok p.data⟩) := by
  obtain ⟨hsame, earlier, later, rfl, hlater⟩ := Put.of_last?_eq_some hlast
  obtain ⟨huser, rfl⟩ := Prod.mk.inj hsame
  obtain ⟨t₁, -, hrest⟩ := of_putAll?_append hputs
  obtain ⟨t₂, hstore, hrest⟩ := of_putAll?_cons hrest
  obtain ⟨hkey, hfile, -⟩ := files_of_done hstore
  obtain ⟨hroot, -, -, hfit⟩ := leads_of_found hkey hfile
  -- Once it is put, the blob is as in a memory that holds it alone, and the rest changes neither.
  have hkept : (MemoryStore.empty.insert p.user p.blobId p.stored).get? identity.user p.blobId = some p.stored := by
    rw [MemoryStore.get?_insert, if_pos (by rw [huser])]
  have hsim := answers_of_putAll? hroot hrest (fun _ => hfit) (m := MemoryStore.empty.insert p.user p.blobId p.stored)
    (by rw [answers_of_done huser.symm hstore, MemoryStore.answers_eq, hkept]; rfl)
  rw [hsim, MemoryStore.answers_eq, MemoryStore.get?_putAll, hlater, hkept]
  rfl

end DirectoryStore

end DownloadGateway
