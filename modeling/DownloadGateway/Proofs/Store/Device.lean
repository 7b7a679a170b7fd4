import DownloadGateway.Proofs.Store.MakeDirectories
/-!
# Devices that fail

A device may refuse what the tree allows, and stop before all of a file is written. It does nothing
else: what succeeds on it succeeds as on one that never fails, and what it leaves of a file is what
was to be written, or some first bytes of it.
-/

namespace DownloadGateway

/-- What a device can leave in a file: all that was to be written, or what comes before the byte
that it stops at. -/
def Device.Leaves (device : Device) (content written : Bytes) : Prop :=
  written = content ∨ ∃ t p n reason, device.stop? t p content = some (n, reason) ∧ written = content.take n

/-- A sound device leaves no part of a file. -/
@[simp] theorem Device.leaves_sound {content written : Bytes} :
    Device.sound.Leaves content written ↔ written = content := by
  simp [Leaves, sound]

/-- A device that takes no more than some bytes of a file. -/
def Device.upTo (limit : Nat) : Device where
  refusal? _ _ := none
  stop? _ _ content := if h : limit < content.length then some (⟨limit, h⟩, "File too large (os error 27)") else none
  syncFault? _ _ := none

namespace FileTree

variable {device : Device} {t t' : FileTree} {p : Path} {content : Bytes} {e : FileError}

/-! ## Making directories -/

/-- A directory is refused by the device, or made or refused by the tree. -/
theorem makeDirectory_cases (device : Device) (t : FileTree) (p : Path) :
    (∃ reason, t.makeDirectory p device = .error (.device reason)) ∨ t.makeDirectory p device = t.makeDirectory p := by
  cases h : device.refusal? t p with
  | some reason =>
    refine .inl ⟨reason, ?_⟩
    unfold makeDirectory
    rw [h]
  | none =>
    refine .inr ?_
    unfold makeDirectory
    rw [h]
    rfl

/-- A directory that is there is not made again. -/
theorem makeDirectory_of_leads (h : t.Leads p) : ∃ e, t.makeDirectory p = .error e := by
  cases hmake : t.makeDirectory p with
  | error e => exact ⟨e, rfl⟩
  | ok t' =>
    obtain ⟨slashes, hslashes, -⟩ := p.pieces_withoutSlash
    have hthere := h.front ⟨slashes, hslashes.symm⟩
    unfold makeDirectory at hmake
    split at hmake
    · cases hmake
    split at hmake
    · cases hmake
    split at hmake
    · cases hmake
    · rename_i hmissing
      rw [(stat_eq_notFound_iff.1 hmissing).2] at hthere
      cases hthere
    · cases hmake

theorem ensureDirectory_cases (device : Device) (t : FileTree) (p : Path) :
    (∃ reason, t.ensureDirectory device p = .error (.device reason)) ∨
      t.ensureDirectory device p = t.ensureDirectory .sound p := by
  unfold ensureDirectory
  rcases makeDirectory_cases device t p with ⟨reason, hrefused⟩ | hsame
  · by_cases hdir : t.isDirectory p = true
    · obtain ⟨e, hmake⟩ := makeDirectory_of_leads (isDirectory_iff.1 hdir).2
      exact .inr (by simp only [hrefused, hmake, if_pos hdir])
    · exact .inl ⟨reason, by simp only [hrefused, if_neg hdir]⟩
  · exact .inr (by rw [hsame])

/-- What the device does not refuse is made, or missing, as on a sound one. -/
theorem ensureDirectory_of_device {result : Except FileError FileTree} (h : t.ensureDirectory device p = result)
    (hrefused : ∀ reason, result ≠ .error (.device reason)) : t.ensureDirectory .sound p = result := by
  rcases ensureDirectory_cases device t p with ⟨reason, hreason⟩ | hsame
  · exact absurd (h.symm.trans hreason) (hrefused reason)
  · exact hsame.symm.trans h

theorem ensureAfter_of_device {makeAbove makeAbove' : FileTree → Except FileError Unit × FileTree}
    (habove : ∀ t t', makeAbove t = (.ok (), t') → makeAbove' t = (.ok (), t'))
    (h : t.ensureAfter device p makeAbove = (.ok (), t')) : t.ensureAfter .sound p makeAbove' = (.ok (), t') := by
  unfold ensureAfter at h
  split at h
  · rename_i hmade
    cases h
    unfold ensureAfter
    rw [ensureDirectory_of_device hmade (by simp)]
  · rename_i hmissing
    split at h
    · cases h
    · rename_i t₁ hmade
      split at h
      · rename_i hlast
        cases h
        unfold ensureAfter
        rw [ensureDirectory_of_device hmissing (by simp)]
        simp only [habove _ _ hmade, ensureDirectory_of_device hlast (by simp)]
      · cases h
  · cases h

theorem makeReversed_of_device {pieces : List String} (h : makeReversed device pieces t = (.ok (), t')) :
    makeReversed .sound pieces t = (.ok (), t') := by
  induction pieces generalizing t t' with
  | nil => exact h
  | cons piece pieces ih =>
    rw [makeReversed] at h ⊢
    split
    · rename_i hstays
      rw [if_pos hstays] at h
      exact ih h
    · rename_i hstays
      rw [if_neg hstays] at h
      exact ensureAfter_of_device (fun _ _ => ih) h

/-- Directories that are made on a device are those that are made on a sound one. -/
theorem makeDirectories_of_device (h : t.makeDirectories p device = (.ok (), t')) :
    t.makeDirectories p = (.ok (), t') :=
  ensureAfter_of_device (fun _ _ => makeReversed_of_device) h

/-! ## Writing a file -/

/-- A file is refused by the device, or made or refused by the tree. -/
theorem makeFile_cases (device : Device) (t : FileTree) (p : Path) :
    (∃ reason, device.refusal? t p = some reason ∧ t.makeFile p device = .error (.device reason)) ∨
      t.makeFile p device = t.makeFile p := by
  cases h : device.refusal? t p with
  | some reason =>
    refine .inl ⟨reason, rfl, ?_⟩
    unfold makeFile
    rw [h]
  | none =>
    refine .inr ?_
    unfold makeFile
    rw [h]
    rfl

theorem write_of_makeFile (h : t.makeFile p device = .ok t') (content : Bytes) :
    t.write p content = .ok (t'.set p.location (.file content)) := by
  rcases makeFile_cases device t p with ⟨reason, -, hrefused⟩ | hsame
  · rw [hrefused] at h
    cases h
  · rw [write, ← hsame, h]
    rfl

/-- How writing a file on a device ends: before the file is opened, before all is written, or well. -/
inductive WriteEnds (device : Device) (t : FileTree) (p : Path) (content : Bytes) :
    Except FileError Unit × FileTree → Prop
  | refused {e : FileError} (hmake : t.makeFile p device = .error e) : WriteEnds device t p content (.error e, t)
  | cut {opened t' : FileTree} {n : Fin content.length} {reason : String} (hmake : t.makeFile p device = .ok opened)
      (hstop : device.stop? opened p content = some (n, reason)) (hwrite : t.write p (content.take n) = .ok t') :
      WriteEnds device t p content (.error (.device reason), t')
  | done {opened t' : FileTree} (hmake : t.makeFile p device = .ok opened) (hwrite : t.write p content = .ok t') :
      WriteEnds device t p content (.ok (), t')

theorem writeEnds_writeOn (device : Device) (t : FileTree) (p : Path) (content : Bytes) :
    WriteEnds device t p content (t.writeOn device p content) := by
  unfold writeOn
  cases hmake : t.makeFile p device with
  | error e => exact .refused hmake
  | ok opened =>
    dsimp only
    split
    · rename_i n reason hstop
      exact .cut hmake hstop (write_of_makeFile hmake _)
    · exact .done hmake (write_of_makeFile hmake _)

theorem of_writeOn {result : Except FileError Unit} (h : t.writeOn device p content = (result, t')) :
    WriteEnds device t p content (result, t') := h ▸ writeEnds_writeOn device t p content

/-- A file that is written on a device is written on a sound one. -/
theorem write_of_device (h : t.writeOn device p content = (.ok (), t')) : t.write p content = .ok t' := by
  cases of_writeOn h with
  | done hmake hwrite => exact hwrite

/-- On a sound device nothing stops a file that is written. -/
theorem writeOn_of_write (h : t.write p content = .ok t') : t.writeOn .sound p content = (.ok (), t') := by
  rw [write] at h
  unfold writeOn
  cases hmake : t.makeFile p with
  | error e =>
    rw [hmake] at h
    cases h
  | ok opened =>
    rw [hmake] at h
    cases h
    rfl

/-- What writing what a device can leave keeps, writing on the device keeps. -/
theorem writeOn_keeps (device : Device) (p : Path) (content : Bytes) {P : FileTree → Prop} (ht : P t)
    (hwrite : ∀ written t', device.Leaves content written → t.write p written = .ok t' → P t') :
    P (t.writeOn device p content).2 := by
  have hends := writeEnds_writeOn device t p content
  generalize t.writeOn device p content = outcome at hends
  cases hends with
  | refused hmake => exact ht
  | cut hmake hstop h => exact hwrite _ _ (.inr ⟨_, _, _, _, hstop, rfl⟩) h
  | done hmake h => exact hwrite _ _ (.inl rfl) h

@[simp] theorem sync_sound (t : FileTree) (p : Path) : t.sync .sound p = .ok () := rfl

end FileTree

end DownloadGateway
