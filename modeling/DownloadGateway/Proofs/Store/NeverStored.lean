import DownloadGateway.Proofs.Store.Equivalence
import DownloadGateway.Proofs.Store.FailedWrite
import DownloadGateway.Proofs.Store.Frame
/-!
# What was never stored

After puts into a fresh directory there is nothing in it but a directory for each user they were
for, and in it the files of their blobs. So a blob that was not put is missing, unless the system
refuses to look for it: a path or a name that is too long is an error, and not the one for blobs
that are missing.
-/

namespace DownloadGateway.DirectoryStore

open FileTree

variable {d : DirectoryStore} {t t' : FileTree} {puts : List Put} {attempts : List Attempt} {l : Location}
  {e e' : Option Entry}
  {user : String} {identity : Identity} {blobId : BlobId}

/-! ## What stands where -/

/-- A put on a device that does not fail. -/
def Attempt.sound (p : Put) : Attempt := ⟨p, .sound⟩

/-- Puts that succeed leave what the same puts leave in any case. -/
theorem eq_storeAll_of_putAll? (h : d.putAll? t puts = some t') : t' = d.storeAll t (puts.map Attempt.sound) := by
  induction puts generalizing t with
  | nil => exact (Option.some.inj h).symm
  | cons p puts ih =>
    obtain ⟨t₁, hstore, hrest⟩ := of_putAll?_cons h
    have hrun : (Attempt.sound p).run d t = (.ok (), t₁) := hstore
    rw [List.map_cons, storeAll_cons, hrun]
    exact ih hrest

theorem effect_putAll? (h : d.putAll? t puts = some t') (l : Location) :
    d.Effect (puts.map Attempt.sound) l (t.get? l) (t'.get? l) := by
  rw [eq_storeAll_of_putAll? h]
  exact effect_storeAll d t _ l

/-- A directory stays one. -/
theorem Effect.of_directory (h : d.Effect attempts l (some .directory) e') : e' = some .directory := by
  cases h with
  | unchanged => rfl
  | file p hp x content written hfile hwritten hl _ he => exact absurd rfl he

theorem leads_of_putAll? {p : Path} (h : d.putAll? t puts = some t') (hleads : t.Leads p) : t'.Leads p := by
  refine hleads.mono fun l hl => ?_
  have heffect := effect_putAll? h l
  rw [hl] at heffect
  exact heffect.of_directory

/-- In the directory of the base nothing comes of nothing, but directories of users and files of blobs. -/
theorem Effect.of_none (h : d.Effect (puts.map Attempt.sound) (d.root.location ++ l) none e)
    (hleads : t.Leads d.root) (hnone : t.get? (d.root.location ++ l) = none) :
    e = none ∨ (∃ p ∈ puts, l = [p.user]) ∨
      ∃ p ∈ puts, ∃ x content, (x, content) ∈ files p.blobId (p.data, p.contentType) ∧ l = [p.user, x] := by
  generalize hplace : d.root.location ++ l = place at h hnone
  cases h with
  | unchanged => exact .inl rfl
  | baseDirectory front hfront hl =>
    -- The way to the base directory was there before.
    rw [hl, show Path.location ⟨front⟩ = (front.foldl Path.step []).reverse from rfl,
      see_of_follow (hleads.front hfront)] at hnone
    cases hnone
  | userDirectory _ ha hl =>
    obtain ⟨p, hp, rfl⟩ := List.mem_map.1 ha
    exact .inr (.inl ⟨p, hp, List.append_cancel_left (hplace.trans hl)⟩)
  | file _ ha x content written hfile hwritten hl =>
    obtain ⟨p, hp, rfl⟩ := List.mem_map.1 ha
    exact .inr (.inr ⟨p, hp, x, content, hfile, List.append_cancel_left (hplace.trans hl)⟩)

/-! ## After puts into a fresh store -/

theorem Fresh.leads (h : d.Fresh t) : t.Leads d.root := (isDirectory_iff.1 h.directory).2

/-- Whoever something was put for has a directory. -/
theorem leads_userPath_of_mem {p : Put} (hputs : d.putAll? t puts = some t') (hp : p ∈ puts) :
    t'.Leads (d.userPath p.user) ∧ Path.IsName p.user := by
  obtain ⟨earlier, later, rfl⟩ := List.append_of_mem hp
  obtain ⟨t₁, -, hrest⟩ := of_putAll?_append hputs
  obtain ⟨t₂, hstore, hrest⟩ := of_putAll?_cons hrest
  obtain ⟨hkey, hfile, -⟩ := files_of_done hstore
  exact ⟨leads_of_putAll? hrest (leads_of_found hkey hfile).2.1, (isName_of_key hkey).1⟩

/-- A user has a directory exactly if something was put for them. -/
theorem get?_user_of_puts (hfresh : d.Fresh t) (hputs : d.putAll? t puts = some t') (user : String) :
    t'.get? (d.root.location ++ [user]) = if ∃ p ∈ puts, p.user = user then some .directory else none := by
  split
  · rename_i h
    obtain ⟨p, hp, rfl⟩ := h
    obtain ⟨hleads, hname⟩ := leads_userPath_of_mem hputs hp
    exact ((leads_below_iff (leads_of_putAll? hputs hfresh.leads) hname).1 hleads).2
  · rename_i h
    have hnone := hfresh.empty [user] (List.cons_ne_nil _ _)
    have heffect := effect_putAll? hputs (d.root.location ++ [user])
    rw [hnone] at heffect
    rcases heffect.of_none hfresh.leads hnone with h' | ⟨p, hp, hl⟩ | ⟨p, hp, x, content, hfile, hl⟩
    · exact h'
    · exact absurd ⟨p, hp, (List.singleton_inj.1 hl).symm⟩ h
    · cases hl

/-- What was not put has no file. -/
theorem get?_content_of_puts (hfresh : d.Fresh t) (hputs : d.putAll? t puts = some t')
    (hkey : Key.check user blobId = .ok ()) (hnever : ∀ p ∈ puts, (p.user, p.blobId) ≠ (user, blobId)) :
    t'.get? (d.root.location ++ [user, blobId.value]) = none := by
  have hnone := hfresh.empty [user, blobId.value] (List.cons_ne_nil _ _)
  have heffect := effect_putAll? hputs (d.root.location ++ [user, blobId.value])
  rw [hnone] at heffect
  rcases heffect.of_none hfresh.leads hnone with h | ⟨p, hp, hl⟩ | ⟨p, hp, x, content, hfile, hl⟩
  · exact h
  · cases hl
  · obtain ⟨huser, hx⟩ : user = p.user ∧ blobId.value = x := by simpa using hl
    simp only [files, List.mem_cons, Prod.mk.injEq, List.not_mem_nil, or_false] at hfile
    rcases hfile with ⟨rfl, -⟩ | ⟨rfl, -⟩
    · exact absurd (by rw [huser, BlobId.ext hx]) (hnever p hp)
    · exact absurd hx (Key.ne_sidecar (Key.check_eq_ok_iff.1 hkey).2.2 _)

/-! ## Answers -/

/-- A query whose key is valid, but that the system refuses: its path is too long, or the name of the
user, or the id, where there is a directory to look for it in. -/
def Overlong (d : DirectoryStore) (puts : List Put) (user : String) (blobId : BlobId) : Prop :=
  Key.check user blobId = .ok () ∧
    (maxPath < (d.contentPath user blobId).text.utf8ByteSize ∨ isTooLong user ∨
      isTooLong blobId.value ∧ ∃ p ∈ puts, p.user = user)

/-- The way to the content of a blob that was not put ends before it: at a name that is too long, or
where the directory of the user or the file is missing. -/
theorem follow_content_of_puts (hfresh : d.Fresh t) (hputs : d.putAll? t puts = some t')
    (hkey : Key.check user blobId = .ok ()) (hnever : ∀ p ∈ puts, (p.user, p.blobId) ≠ (user, blobId)) :
    follow t'.get? [] (d.contentPath user blobId).pieces =
      if isTooLong user ∨ isTooLong blobId.value ∧ ∃ p ∈ puts, p.user = user then .error .nameTooLong
      else .error .notFound := by
  obtain ⟨huser, hid⟩ := isName_of_key hkey
  have hplace : (user :: d.root.location.reverse).reverse = d.root.location ++ [user] := by simp
  have hdirectory := get?_user_of_puts hfresh hputs user
  rw [← hplace] at hdirectory
  rw [contentPath, follow_below_cons (leads_of_putAll? hputs hfresh.leads), huser.step_eq]
  by_cases hlong : isTooLong user = true
  · rw [if_pos hlong, if_pos (.inl hlong)]
  rw [if_neg hlong]
  by_cases hsome : ∃ p ∈ puts, p.user = user
  · have hfile : t'.get? (blobId.value :: user :: d.root.location.reverse).reverse = none := by
      rw [← get?_content_of_puts hfresh hputs hkey hnever]
      simp
    rw [if_pos hsome] at hdirectory
    rw [follow_cons hdirectory, hid.step_eq, follow_of_none hfile]
    simp [hlong, hsome]
  · rw [if_neg hsome] at hdirectory
    rw [follow_of_none hdirectory]
    simp [hlong, hsome]

theorem stat_content_of_puts (hfresh : d.Fresh t) (hputs : d.putAll? t puts = some t')
    (hkey : Key.check user blobId = .ok ()) (hnever : ∀ p ∈ puts, (p.user, p.blobId) ≠ (user, blobId)) :
    (d.Overlong puts user blobId → t'.stat (d.contentPath user blobId) = .error .nameTooLong) ∧
      (¬d.Overlong puts user blobId → t'.stat (d.contentPath user blobId) = .error .notFound) := by
  obtain ⟨huser, hid, -⟩ := Key.check_eq_ok_iff.1 hkey
  have hfault : fault? (d.contentPath user blobId) =
      if maxPath < (d.contentPath user blobId).text.utf8ByteSize then some .nameTooLong else none := by
    refine fault?_below_eq (isDirectory_iff.1 hfresh.directory).1 ?_
    simpa using ⟨Key.toNat_ne_zero_of_isSegment huser, Key.toNat_ne_zero_of_isSegment hid⟩
  rw [stat_eq, hfault, follow_content_of_puts hfresh hputs hkey hnever, Overlong, and_iff_right hkey]
  by_cases hpath : maxPath < (d.contentPath user blobId).text.utf8ByteSize
  · simp [hpath]
  · simp only [hpath, false_or, if_false]
    exact ⟨fun h => if_pos h, fun h => if_neg h⟩

/-- After puts into a fresh store, each of which succeeded, a blob that was not put is missing, and
retrieving it tells the same; but a query that the system refuses is answered with the error of the
system. Nothing else is answered. -/
theorem answers_of_never_stored (hfresh : d.Fresh t) (hputs : d.putAll? t puts = some t')
    (hnever : ∀ p ∈ puts, (p.user, p.blobId) ≠ (identity.user, blobId)) :
    (d.Overlong puts identity.user blobId →
      (d.toStore t').answers blobId identity = (.error (systemError .nameTooLong), .error (systemError .nameTooLong))) ∧
    (¬d.Overlong puts identity.user blobId →
      (d.toStore t').answers blobId identity = (.ok false, .error (.notFound blobId.value))) := by
  cases hkey : Key.check identity.user blobId with
  | error e =>
    refine ⟨fun h => ?_, fun _ => answers_of_rejected hkey⟩
    rw [Overlong, hkey] at h
    cases h.1
  | ok =>
    obtain ⟨hlong, hshort⟩ := stat_content_of_puts hfresh hputs hkey hnever
    exact ⟨fun h => answers_of_error hkey (hlong h) (by decide), fun h => answers_of_missing hkey (.inl (hshort h))⟩

/-- Beside a blob that was put, the name of its sidecar is no blob, but it is not an error either. -/
theorem answers_of_never_stored_beside :
    let d : DirectoryStore := ⟨"s"⟩
    let t : FileTree := ⟨[("s", .directory [])]⟩
    let puts : List Put := [⟨"u", ⟨"b", by decide⟩, "text/plain", [104]⟩]
    let sidecar : BlobId := ⟨"b.meta.json", by decide⟩
    let other : BlobId := ⟨"c", by decide⟩
    d.Fresh t ∧ ∃ t', d.putAll? t puts = some t' ∧ ¬d.Overlong puts "u" sidecar ∧ ¬d.Overlong puts "u" other ∧
      (d.toStore t').answers sidecar ⟨"u", .apiKey⟩ = (.ok false, .error (.notFound "b.meta.json")) ∧
      (d.toStore t').answers other ⟨"u", .apiKey⟩ = (.ok false, .error (.notFound "c")) := by
  intro d t puts sidecar other
  have hfresh : d.Fresh t := fresh_of_empty
  obtain ⟨t', hputs⟩ := Option.isSome_iff_exists.1 (show (d.putAll? t puts).isSome by decide +kernel)
  have hsidecar : ¬d.Overlong puts "u" sidecar := fun h => absurd h.1 (by decide +kernel)
  have hother : ¬d.Overlong puts "u" other := by
    rintro ⟨-, h⟩
    revert h
    decide +kernel
  exact ⟨hfresh, _, hputs, hsidecar, hother,
    (@answers_of_never_stored _ _ _ _ ⟨"u", .apiKey⟩ sidecar hfresh hputs (by decide)).2 hsidecar,
    (@answers_of_never_stored _ _ _ _ ⟨"u", .apiKey⟩ other hfresh hputs (by decide)).2 hother⟩

/-- An id of 256 letters, which no put was ever for, is an error as soon as its user has a blob. -/
theorem answers_error_of_never_stored :
    let d : DirectoryStore := ⟨"s"⟩
    let t : FileTree := ⟨[("s", .directory [])]⟩
    let puts : List Put := [⟨"u", ⟨"b", by decide⟩, "text/plain", [104]⟩]
    d.Fresh t ∧ (∀ p ∈ puts, (p.user, p.blobId) ≠ ("u", lettersId 255)) ∧ ∃ t', d.putAll? t puts = some t' ∧
      (d.toStore t').answers (lettersId 255) ⟨"u", .apiKey⟩ =
        (.error (systemError .nameTooLong), .error (systemError .nameTooLong)) := by
  intro d t puts
  have hkey : Key.check "u" (lettersId 255) = .ok () := by
    rw [Key.check_eq_ok_iff, Key.isSegment, Key.isSegment, Key.endsAsSidecar, toList_lettersId]
    decide +kernel
  obtain ⟨t', hputs⟩ := Option.isSome_iff_exists.1 (show (d.putAll? t puts).isSome by decide +kernel)
  have hnever : ∀ p ∈ puts, (p.user, p.blobId) ≠ ("u", lettersId 255) := by decide +kernel
  have hlong : d.Overlong puts "u" (lettersId 255) := ⟨hkey, .inr (.inr ⟨by decide +kernel, by decide⟩)⟩
  have hstat := (stat_content_of_puts fresh_of_empty hputs hkey hnever).1 hlong
  exact ⟨fresh_of_empty, hnever, _, hputs, answers_of_error hkey hstat (by decide)⟩

end DownloadGateway.DirectoryStore
