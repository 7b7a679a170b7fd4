import DownloadGateway.Proofs.Store.Puts
/-!
# Both kinds of store answer alike

After the same puts, a store on disk that was fresh and one in memory that was empty answer every
query alike. What the system takes for no path or no name is left out: there the store on disk
answers with an error.
-/

namespace DownloadGateway.DirectoryStore

open FileTree

variable {d : DirectoryStore} {t t' : FileTree} {puts : List Put} {identity : Identity} {blobId : BlobId}

/-- The base directory is there, and there is nothing in it. -/
structure Fresh (d : DirectoryStore) (t : FileTree) : Prop where
  directory : t.isDirectory d.root = true
  empty : ∀ l, l ≠ [] → t.get? (d.root.location ++ l) = none

theorem fresh_of_empty : Fresh ⟨"s"⟩ ⟨[("s", .directory [])]⟩ := by
  refine ⟨by decide +kernel, fun l hl => ?_⟩
  obtain ⟨name, l, rfl⟩ := List.exists_cons_of_ne_nil hl
  rw [show (⟨"s"⟩ : DirectoryStore).root.location = ["s"] by decide +kernel]
  rfl

/-- A query that the system has a path for, if it has a key: its names and its path are not too
long. -/
def Fits (d : DirectoryStore) (identity : Identity) (blobId : BlobId) : Prop :=
  Key.check identity.user blobId = .ok () →
    ¬isTooLong identity.user ∧ ¬isTooLong blobId.value ∧
      (d.contentPath identity.user blobId).text.utf8ByteSize ≤ maxPath

/-- A fresh store has no blob. -/
theorem answers_of_fresh (hfresh : d.Fresh t) (hfit : d.Fits identity blobId) :
    (d.toStore t).answers blobId identity = (.ok false, .error (.notFound blobId.value)) := by
  cases hkey : Key.check identity.user blobId with
  | error e => exact answers_of_rejected hkey
  | ok =>
    obtain ⟨huser, hid, hpath⟩ := hfit hkey
    obtain ⟨hname, hname'⟩ := isName_of_key hkey
    obtain ⟨hfault, hroot⟩ := isDirectory_iff.1 hfresh.directory
    refine answers_of_missing hkey (.inl (stat_eq_notFound_iff.2 ⟨fault?_contentPath hkey hfault hpath, ?_⟩))
    have hnone : t.get? (identity.user :: d.root.location.reverse).reverse = none := by
      rw [List.reverse_cons, List.reverse_reverse]
      exact hfresh.empty _ (List.cons_ne_nil _ _)
    rw [contentPath, follow_below_cons hroot, if_neg huser, hname.step_eq, follow, hnone]

/-- After the same puts, each of which succeeded, a store on disk and one in memory answer a query
alike: with the last put for it, or that there is none. What has no key was not put. -/
theorem answers_as_memory (hfresh : d.Fresh t) (hputs : d.putAll? t puts = some t')
    (hfit : d.Fits identity blobId) :
    let answer := match Put.last? puts identity.user blobId with
      | some p => (.ok true, .ok ⟨blobId, p.data.length, p.contentType, .ok p.data⟩)
      | none => (.ok false, .error (.notFound blobId.value))
    (d.toStore t').answers blobId identity = answer ∧
      (MemoryStore.empty.putAll puts).toStore.answers blobId identity = answer ∧
      ∀ e, Key.check identity.user blobId = .error e → answer = (.ok false, .error (.notFound blobId.value)) := by
  intro answer
  have hmemory : (MemoryStore.empty.putAll puts).toStore.answers blobId identity = answer := by
    rw [MemoryStore.answers_eq, MemoryStore.get?_putAll]
    simp only [answer]
    cases Put.last? puts identity.user blobId <;> rfl
  have hdirectory : (d.toStore t').answers blobId identity = answer := by
    rw [← hmemory]
    refine answers_of_putAll? (isDirectory_iff.1 hfresh.directory).2 hputs (fun hkey => (hfit hkey).2.1) ?_
    rw [answers_of_fresh hfresh hfit, MemoryStore.answers_eq]
    rfl
  exact ⟨hdirectory, hmemory, fun e hkey => by rw [← hdirectory, answers_of_rejected hkey]⟩

/-- A blob that was put twice, and an id that makes no key. -/
theorem answers_as_memory_overwritten :
    let d : DirectoryStore := ⟨"s"⟩
    let t : FileTree := ⟨[("s", .directory [])]⟩
    let blobId : BlobId := ⟨"b", by decide⟩
    let puts : List Put := [⟨"u", blobId, "text/plain", [1]⟩, ⟨"u", blobId, "a\"b", [2, 3]⟩]
    d.Fresh t ∧ d.Fits ⟨"u", .apiKey⟩ blobId ∧ ∃ t', d.putAll? t puts = some t' ∧
      (d.toStore t').answers blobId ⟨"u", .apiKey⟩ = (.ok true, .ok ⟨blobId, 2, "a\"b", .ok [2, 3]⟩) ∧
      (d.toStore t').answers ⟨"..", by decide⟩ ⟨"u", .apiKey⟩ = (.ok false, .error (.notFound "..")) := by
  intro d t blobId puts
  have hfresh : d.Fresh t := fresh_of_empty
  have hfit : d.Fits ⟨"u", .apiKey⟩ blobId := fun _ => by decide +kernel
  have hfit' : d.Fits ⟨"u", .apiKey⟩ ⟨"..", by decide⟩ := fun h => absurd h (by decide +kernel)
  obtain ⟨t', hputs⟩ := Option.isSome_iff_exists.1 (show (d.putAll? t puts).isSome by decide +kernel)
  exact ⟨hfresh, hfit, t', hputs, (answers_as_memory hfresh hputs hfit).1, (answers_as_memory hfresh hputs hfit').1⟩

/-! ## Paths that are too long -/

/-- A path of slashes has nothing between them. -/
theorem ofString_slashes (n : Nat) :
    Path.ofString (String.ofList (List.replicate n '/')) = ⟨List.replicate n "" ++ [""]⟩ := by
  suffices h : (List.replicate n '/').splitOn '/' = List.replicate n [] ++ [[]] by
    rw [Path.ofString, String.toList_ofList, h, List.map_append, List.map_replicate]
    rfl
  induction n with
  | zero => rfl
  | succ n ih =>
    rw [List.replicate_succ, List.replicate_succ, List.cons_append, ← ih]
    exact List.splitOn_append_cons_self_of_not_mem List.not_mem_nil _

theorem size_slashes (n : Nat) (piece : String) (pieces : List String) :
    (Path.text ⟨List.replicate n "" ++ piece :: pieces⟩).utf8ByteSize =
      n + (Path.text ⟨piece :: pieces⟩).utf8ByteSize := by
  induction n with
  | zero => simp
  | succ n ih =>
    have hcons : Path.text ⟨"" :: (List.replicate n "" ++ piece :: pieces)⟩ =
        "/" ++ Path.text ⟨List.replicate n "" ++ piece :: pieces⟩ := by
      rw [Path.text, String.intercalate_cons_of_ne_nil (by simp), String.empty_append]
      rfl
    rw [List.replicate_succ, List.cons_append, hcons, String.utf8ByteSize_append, ih,
      show "/".utf8ByteSize = 1 from rfl]
    omega

theorem fault?_slashes (n : Nat) {piece : String} {pieces : List String}
    (hnul : (piece :: pieces).any (·.toList.any (·.toNat = 0)) = false) :
    fault? ⟨List.replicate n "" ++ piece :: pieces⟩ =
      if maxPath < n + (Path.text ⟨piece :: pieces⟩).utf8ByteSize then some .nameTooLong else none := by
  rw [fault?, size_slashes, Path.any_text (by decide), List.any_append, hnul, List.any_replicate]
  simp

/-- A base directory whose path leaves no room for a user and an id: what is only missing in
memory is an error on disk. -/
theorem answers_differ_below_long_base :
    let d : DirectoryStore := ⟨String.ofList (List.replicate 4090 '/')⟩
    let blobId : BlobId := ⟨"blob", by decide⟩
    d.Fresh .empty ∧ d.putAll? .empty [] = some .empty ∧ ¬isTooLong "user" ∧ ¬isTooLong "blob.meta.json" ∧
      (MemoryStore.empty.putAll []).toStore.answers blobId ⟨"user", .apiKey⟩ =
        (.ok false, .error (.notFound "blob")) ∧
      (d.toStore .empty).answers blobId ⟨"user", .apiKey⟩ =
        (.error (systemError .nameTooLong), .error (systemError .nameTooLong)) := by
  intro d blobId
  have hroot : d.root = ⟨List.replicate 4090 "" ++ [""]⟩ := ofString_slashes 4090
  have hstays : ∀ piece ∈ d.root.pieces, Path.stays piece := by
    intro piece hpiece
    rw [hroot] at hpiece
    rcases List.mem_append.1 hpiece with h | h
    · rw [List.eq_of_mem_replicate h]
      rfl
    · rw [List.mem_singleton.1 h]
      rfl
  have hfresh : d.Fresh .empty := by
    constructor
    · exact isDirectory_iff.2 ⟨by rw [hroot, fault?_slashes 4090 (by decide)]; decide, follow_of_stays rfl hstays⟩
    · intro l hl
      obtain ⟨name, l, rfl⟩ := List.exists_cons_of_ne_nil hl
      rw [Path.location, Path.foldl_step_of_stays hstays]
      rfl
  have hkey : Key.check "user" blobId = .ok () := by decide +kernel
  have hcontent : d.contentPath "user" blobId = ⟨List.replicate 4090 "" ++ ["user", "blob"]⟩ := by
    rw [contentPath, Path.below, hroot, List.getLast?_concat, if_pos rfl, List.dropLast_concat]
  have hstat : FileTree.empty.stat (d.contentPath "user" blobId) = .error .nameTooLong := by
    rw [stat_eq, hcontent, fault?_slashes 4090 (by decide)]
    rfl
  exact ⟨hfresh, rfl, by decide, by decide, rfl, answers_of_error hkey hstat (by decide)⟩

end DownloadGateway.DirectoryStore
