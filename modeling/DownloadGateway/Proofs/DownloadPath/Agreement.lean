import DownloadGateway.Proofs.DownloadPath
/-!
# The resolvers of a path agree

A path is looked at three times: by the authenticator, for a token, and for a download. All three
find the same blob in it, or none. A download also decodes the name, which is the only thing that
it can fail over where the others do not.
-/

namespace DownloadGateway.DownloadPath

variable {path : String} {blobId : BlobId} {name : Option String} {f : Failure}

/-- A path with a name segment, which may not decode. -/
def IsNamedPathOf (path : String) (blobId : BlobId) (raw : String) : Prop :=
  '/' ∉ blobId.value.toList ∧ raw ≠ "" ∧ '/' ∉ raw.toList ∧ path = "/download/" ++ blobId.value ++ "/" ++ raw

/-- Every path is a download path without a name, one with a name, or none. -/
theorem shapes (path : String) :
    (∃ blobId : BlobId, '/' ∉ blobId.value.toList ∧ path = "/download/" ++ blobId.value) ∨
      (∃ blobId raw, IsNamedPathOf path blobId raw) ∨ ∀ blob, ¬IsPathOf path blob := by
  by_cases h : ∃ blob, IsPathOf path blob
  · obtain ⟨blob, hne, hblob, hpath | ⟨raw, hraw, hslash, hpath⟩⟩ := h
    · exact .inl ⟨⟨blob, hne⟩, hblob, hpath⟩
    · exact .inr (.inl ⟨⟨blob, hne⟩, raw, hblob, hraw, hslash, hpath⟩)
  · exact .inr (.inr fun blob hblob => h ⟨blob, hblob⟩)

theorem IsNamedPathOf.resolve_eq {raw : String} (h : IsNamedPathOf path blobId raw) :
    resolve path = (decodeName raw).map (⟨blobId, some ·⟩) := by
  obtain ⟨hblob, hraw, hslash, rfl⟩ := h
  exact resolve_named hblob hraw hslash

/-! ## Paths of another shape -/

theorem split?_eq_none (h : ∀ blob, ¬IsPathOf path blob) : split? path = none := by
  cases hs : split? path with
  | none => rfl
  | some segments =>
    refine absurd (isPathOf_iff.2 ⟨segments.2, ?_⟩) (h (String.ofList segments.1))
    rw [hs, String.toList_ofList]

theorem resolve_of_no_path (h : ∀ blob, ¬IsPathOf path blob) : resolve path = .error (notDownload path) := by
  rw [resolve, split?_eq_none h]

theorem blobIdOf_of_no_path (h : ∀ blob, ¬IsPathOf path blob) : blobIdOf path = .error (notDownload path) := by
  rw [blobIdOf, split?_eq_none h]

theorem blobIdOf_eq_error_iff : blobIdOf path = .error f ↔ f = notDownload path ∧ ∀ blob, ¬IsPathOf path blob := by
  constructor
  · intro h
    have hno : ∀ blob, ¬IsPathOf path blob := by
      intro blob hblob
      rw [blobIdOf_eq_ok_iff.2 (show IsPathOf path (BlobId.mk blob hblob.1).value from hblob)] at h
      cases h
    rw [blobIdOf_of_no_path hno] at h
    cases h
    exact ⟨rfl, hno⟩
  · rintro ⟨rfl, hno⟩
    exact blobIdOf_of_no_path hno

/-! ## Paths for a download -/

theorem resolve_eq_ok_iff : resolve path = .ok ⟨blobId, name⟩ ↔ LeadsTo blobId path name := by
  refine ⟨fun h => ?_, LeadsTo.resolve⟩
  rcases shapes path with ⟨blobId', hblob, rfl⟩ | ⟨blobId', raw, hnamed⟩ | hno
  · rw [resolve_alone hblob] at h
    cases h
    exact .alone hblob
  · rw [hnamed.resolve_eq] at h
    obtain ⟨hblob, hraw, hslash, rfl⟩ := hnamed
    cases hname : decodeName raw with
    | error e =>
      rw [hname] at h
      cases h
    | ok decoded =>
      rw [hname] at h
      cases h
      exact .named hblob hraw hslash hname
  · rw [resolve_of_no_path hno] at h
    cases h

/-- A name that cannot be decoded always fails with the same text. -/
theorem of_decodeName_eq_error {raw : String} (h : decodeName raw = .error f) :
    ∃ causes, f = .badRequest wrongEncoding causes := by
  unfold decodeName at h
  split at h
  · cases h
    exact ⟨_, rfl⟩
  · split at h <;> cases h
    exact ⟨_, rfl⟩

theorem notDownload_ne {text : String} (h : text.toList.head? ≠ some 'N') (path : String) (causes : List String) :
    notDownload path ≠ .badRequest text causes := by
  intro hf
  have htext := congrArg (·.toList.head?) (Failure.badRequest.inj hf).1
  rw [String.toList_append] at htext
  exact h htext.symm

/-- A download fails over its path for one of two reasons. -/
theorem resolve_eq_error_iff :
    resolve path = .error f ↔
      (f = notDownload path ∧ ∀ blob, ¬IsPathOf path blob) ∨
        ∃ blobId raw, IsNamedPathOf path blobId raw ∧ decodeName raw = .error f := by
  constructor
  · intro h
    rcases shapes path with ⟨blobId, hblob, rfl⟩ | ⟨blobId, raw, hnamed⟩ | hno
    · rw [resolve_alone hblob] at h
      cases h
    · refine .inr ⟨blobId, raw, hnamed, ?_⟩
      rw [hnamed.resolve_eq] at h
      cases hname : decodeName raw with
      | error e =>
        rw [hname] at h
        cases h
        rfl
      | ok decoded =>
        rw [hname] at h
        cases h
    · rw [resolve_of_no_path hno] at h
      cases h
      exact .inl ⟨rfl, hno⟩
  · rintro (⟨rfl, hno⟩ | ⟨blobId, raw, hnamed, hname⟩)
    · exact resolve_of_no_path hno
    · rw [hnamed.resolve_eq, hname]
      rfl

/-- The authenticator, a request for a token and a download find the same blob in a path, and each
finds one exactly if the path has the shape of download paths; a download also needs a name that
decodes, if there is a name. It fails over the encoding exactly if the shape is right and the name
does not decode, and over the shape exactly if that is wrong; so no path has an empty blob id. -/
theorem resolvers_agree (path : String) :
    (∀ blob, rawBlobId? path = some blob ↔ IsPathOf path blob) ∧
    (∀ blobId, blobIdOf path = .ok blobId ↔ IsPathOf path blobId.value) ∧
    (∀ blobId name, resolve path = .ok ⟨blobId, name⟩ ↔ LeadsTo blobId path name) ∧
    ((∃ causes, resolve path = .error (.badRequest "Wrong url encoding" causes)) ↔
      ∃ blobId raw, IsNamedPathOf path blobId raw ∧ ∀ name, decodeName raw ≠ .ok name) ∧
    (resolve path = .error (.badRequest ("Not a download path: " ++ path) []) ↔ ∀ blob, ¬IsPathOf path blob) ∧
    (blobIdOf path = .error (.badRequest ("Not a download path: " ++ path) []) ↔ ∀ blob, ¬IsPathOf path blob) ∧
    resolve path ≠ .error BlobId.emptyFailure ∧ blobIdOf path ≠ .error BlobId.emptyFailure := by
  refine ⟨fun _ => rawBlobId?_eq_some_iff, fun _ => blobIdOf_eq_ok_iff, fun _ _ => resolve_eq_ok_iff, ?_, ?_, ?_, ?_, ?_⟩
  · constructor
    · rintro ⟨causes, h⟩
      rcases resolve_eq_error_iff.1 h with ⟨hf, -⟩ | ⟨blobId, raw, hnamed, hname⟩
      · exact absurd hf.symm (notDownload_ne (by decide) path causes)
      · exact ⟨blobId, raw, hnamed, by simp [hname]⟩
    · rintro ⟨blobId, raw, hnamed, hname⟩
      cases hdecoded : decodeName raw with
      | ok name => exact absurd hdecoded (hname name)
      | error f =>
        obtain ⟨causes, rfl⟩ := of_decodeName_eq_error hdecoded
        exact ⟨causes, resolve_eq_error_iff.2 (.inr ⟨blobId, raw, hnamed, hdecoded⟩)⟩
  · refine ⟨fun h => ?_, resolve_of_no_path⟩
    rcases resolve_eq_error_iff.1 h with ⟨-, hno⟩ | ⟨blobId, raw, -, hname⟩
    · exact hno
    · obtain ⟨causes, hf⟩ := of_decodeName_eq_error hname
      exact absurd hf (notDownload_ne (by decide) path causes)
  · exact ⟨fun h => (blobIdOf_eq_error_iff.1 h).2, blobIdOf_of_no_path⟩
  · intro h
    rcases resolve_eq_error_iff.1 h with ⟨hf, -⟩ | ⟨blobId, raw, -, hname⟩
    · exact notDownload_ne (by decide) path [] hf.symm
    · obtain ⟨causes, hf⟩ := of_decodeName_eq_error hname
      exact absurd (Failure.badRequest.inj hf).1 (by decide)
  · intro h
    exact notDownload_ne (by decide) path [] (blobIdOf_eq_error_iff.1 h).1.symm

end DownloadGateway.DownloadPath
