import DownloadGateway.Proofs.Store.Path
import DownloadGateway.Store.Key
/-!
# Names made of keys

What a key may be made of is checked character by character, and in the words of a path
(`IsComponent`) that is all it takes: the parts of a valid key are names in a directory. So is the
name of its sidecar, which is the name of no other content.
-/

namespace DownloadGateway.Key

variable {user : String} {blobId : BlobId} {cs : List Char}

/-! ## Components -/

/-- A name that means only itself, wherever it stands in a path. -/
structure IsComponent (s : String) : Prop where
  ne_empty : s ≠ ""
  ne_dot : s ≠ "."
  no_dots : ¬['.', '.'] <:+: s.toList
  no_slash : '/' ∉ s.toList
  no_backslash : '\\' ∉ s.toList
  no_nul : '\x00' ∉ s.toList

theorem hasTwoDots_iff : hasTwoDots cs = true ↔ ['.', '.'] <:+: cs := by
  induction cs with
  | nil => simp [hasTwoDots]
  | cons a cs ih =>
    cases cs with
    | nil => simp [hasTwoDots, List.infix_cons_iff]
    | cons b cs =>
      have hcons : ['.', '.'] <:+: a :: b :: cs ↔ (a = '.' ∧ b = '.') ∨ ['.', '.'] <:+: b :: cs := by
        rw [List.infix_cons_iff, List.cons_prefix_cons, List.cons_prefix_cons, eq_comm, @eq_comm _ '.' b]
        simp only [List.nil_prefix, and_true]
      rw [hasTwoDots, Bool.or_eq_true, ih, hcons, Bool.and_eq_true, beq_iff_eq, beq_iff_eq]

theorem isSegment_iff {s : String} : isSegment s = true ↔ IsComponent s := by
  have hempty : s.toList = [] ↔ s = "" := String.toList_eq_nil_iff
  have hdot : s.toList = ['.'] ↔ s = "." := ⟨fun h => String.toList_inj.1 h, fun h => h ▸ rfl⟩
  have hdots : hasTwoDots s.toList = false ↔ ¬['.', '.'] <:+: s.toList := by rw [← hasTwoDots_iff, Bool.not_eq_true]
  have hnul (c : Char) : c.toNat = 0 ↔ c = '\x00' := Char.toNat_inj (d := '\x00')
  simp only [isSegment, Bool.and_eq_true, decide_eq_true_eq, Bool.not_eq_true', List.all_eq_true, bne_iff_ne, ne_eq,
    hempty, hdot, hdots, hnul]
  constructor
  · rintro ⟨⟨⟨hne, hdot⟩, hdots⟩, hchars⟩
    exact ⟨hne, hdot, hdots, fun h => (hchars _ h).1.1 rfl, fun h => (hchars _ h).1.2 rfl, fun h => (hchars _ h).2 rfl⟩
  · intro h
    refine ⟨⟨⟨h.ne_empty, h.ne_dot⟩, h.no_dots⟩, fun c hc => ⟨⟨?_, ?_⟩, ?_⟩⟩
    · rintro rfl
      exact h.no_slash hc
    · rintro rfl
      exact h.no_backslash hc
    · rintro rfl
      exact h.no_nul hc

theorem IsComponent.isName {s : String} (h : IsComponent s) : Path.IsName s := by
  refine Path.isName_iff.2 ⟨h.ne_empty, h.ne_dot, ?_⟩
  rintro rfl
  exact h.no_dots (List.infix_refl _)

theorem toNat_ne_zero_of_isSegment {s : String} (h : isSegment s = true) : ∀ c ∈ s.toList, c.toNat ≠ 0 := by
  simp only [isSegment, Bool.and_eq_true, List.all_eq_true, bne_iff_ne] at h
  exact fun c hc => (h.2 c hc).2

/-! ## Keys -/

theorem check_eq_ok_iff :
    check user blobId = .ok () ↔
      isSegment user = true ∧ isSegment blobId.value = true ∧ endsAsSidecar blobId.value = false := by
  unfold check
  split
  · simp_all
  · split
    · simp_all
    · split <;> simp_all

/-- A blob can be kept if its user and its id are such names and the id does not end like the name
of a sidecar. -/
theorem check_eq_ok_iff_isComponent :
    check user blobId = .ok () ↔
      IsComponent user ∧ IsComponent blobId.value ∧ ¬sidecarEnding.toList <:+ blobId.value.toList := by
  rw [check_eq_ok_iff, isSegment_iff, isSegment_iff, endsAsSidecar, ← Bool.not_eq_true, List.isSuffixOf_iff_suffix]

/-- A key is refused for what it holds. -/
theorem of_check_eq_error {e : StorageError} (h : check user blobId = .error e) : ∃ reason, e = .invalidKey reason := by
  unfold check at h
  split at h
  · cases h
    exact ⟨_, rfl⟩
  · split at h
    · cases h
      exact ⟨_, rfl⟩
    · split at h <;> cases h
      exact ⟨_, rfl⟩

/-- Both files of a blob have keys, or neither has one. -/
theorem forBlob_of_check (h : check user blobId = .ok ()) :
    forBlob user blobId = .ok (content user blobId, sidecar user blobId) := by
  rw [forBlob, forSidecar, forContent, h]
  rfl

theorem forBlob_of_error {e : StorageError} (h : check user blobId = .error e) : forBlob user blobId = .error e := by
  rw [forBlob, forSidecar, forContent, h]
  rfl

/-! ## Sidecars -/

theorem isName_sidecar (s : String) : Path.IsName (s ++ sidecarEnding) := by
  have hlength : 10 ≤ (s ++ sidecarEnding).toList.length := by
    rw [String.toList_append, List.length_append]
    exact Nat.le_add_left 10 _
  refine Path.isName_iff.2 ⟨?_, ?_, ?_⟩
  all_goals
    intro hname
    rw [hname] at hlength
    revert hlength
    decide

/-- The content of a blob is in no place where a sidecar is. -/
theorem ne_sidecar (h : endsAsSidecar blobId.value = false) (s : String) : blobId.value ≠ s ++ sidecarEnding := by
  intro he
  have hends : endsAsSidecar blobId.value = true := by
    rw [endsAsSidecar, List.isSuffixOf_iff_suffix, he, String.toList_append]
    exact List.suffix_append ..
  rw [h] at hends
  cases hends

theorem sidecar_inj {s s' : String} (h : s ++ sidecarEnding = s' ++ sidecarEnding) : s = s' := by
  rw [← String.toList_inj] at h ⊢
  rw [String.toList_append, String.toList_append] at h
  exact List.append_cancel_right h

end DownloadGateway.Key
