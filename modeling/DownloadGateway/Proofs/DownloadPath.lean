import DownloadGateway.DownloadPath
/-!
# The shape of download paths

`IsPathOf` says in plain words which paths reach a blob segment. The authenticator and the handlers
each look at a path in their own way; all of them agree with it.
-/

namespace DownloadGateway

namespace DownloadPath

/-- The paths under which a blob segment is reached: alone, or with a name segment. -/
def IsPathOf (path blob : String) : Prop :=
  blob ≠ "" ∧ '/' ∉ blob.toList ∧
    (path = "/download/" ++ blob ∨
      ∃ name : String, name ≠ "" ∧ '/' ∉ name.toList ∧ path = "/download/" ++ blob ++ "/" ++ name)

/-! ## Segments -/

theorem split?_eq_bind (path : String) :
    split? path = (Text.after? (root.toList ++ ['/']) path.toList).bind fun rest =>
      match Text.cut? '/' rest with
      | none => if rest = [] then none else some (rest, none)
      | some (blob, name) => if blob = [] ∨ name = [] ∨ '/' ∈ name then none else some (blob, some name) :=
  rfl

theorem split?_eq_some_alone_iff {path : String} {blob : List Char} :
    split? path = some (blob, none) ↔
      blob ≠ [] ∧ '/' ∉ blob ∧ path.toList = root.toList ++ '/' :: blob := by
  rw [split?_eq_bind, Option.bind_eq_some_iff]
  constructor
  · rintro ⟨rest, hrest, h⟩
    rw [Text.after?_eq_some_iff] at hrest
    split at h
    · rename_i hcut
      split at h
      · cases h
      · cases h
        exact ⟨‹_›, Text.cut?_eq_none_iff.1 hcut, by simpa using hrest⟩
    · split at h <;> cases h
  · rintro ⟨hne, hdot, hpath⟩
    refine ⟨blob, Text.after?_eq_some_iff.2 (by simpa using hpath), ?_⟩
    rw [Text.cut?_eq_none_iff.2 hdot]
    simp [hne]

theorem split?_eq_some_named_iff {path : String} {blob name : List Char} :
    split? path = some (blob, some name) ↔
      blob ≠ [] ∧ '/' ∉ blob ∧ name ≠ [] ∧ '/' ∉ name ∧
        path.toList = root.toList ++ '/' :: blob ++ '/' :: name := by
  rw [split?_eq_bind, Option.bind_eq_some_iff]
  constructor
  · rintro ⟨rest, hrest, h⟩
    rw [Text.after?_eq_some_iff] at hrest
    split at h
    · split at h <;> cases h
    · rename_i b n hcut
      obtain ⟨hb, rfl⟩ := Text.cut?_eq_some_iff.1 hcut
      split at h
      · cases h
      · rename_i hn
        cases h
        simp only [not_or] at hn
        exact ⟨hn.1, hb, hn.2.1, hn.2.2, by simpa using hrest⟩
  · rintro ⟨hne, hblob, hname, hslash, hpath⟩
    refine ⟨blob ++ '/' :: name, Text.after?_eq_some_iff.2 (by simpa using hpath), ?_⟩
    rw [Text.cut?_eq_some_iff.2 ⟨hblob, rfl⟩]
    simp [hne, hname, hslash]

/-- A path reaches a blob segment exactly if it splits into that segment and maybe a name. -/
theorem isPathOf_iff {path blob : String} :
    IsPathOf path blob ↔ ∃ name, split? path = some (blob.toList, name) := by
  constructor
  · rintro ⟨hne, hslash, rfl | ⟨name, hname, hname', rfl⟩⟩
    · refine ⟨none, split?_eq_some_alone_iff.2 ⟨by simpa using hne, hslash, ?_⟩⟩
      simp [root]
    · refine ⟨some name.toList, split?_eq_some_named_iff.2 ⟨by simpa using hne, hslash,
        by simpa using hname, hname', ?_⟩⟩
      simp [root]
  · rintro ⟨name, h⟩
    cases name with
    | none =>
      obtain ⟨hne, hslash, hpath⟩ := split?_eq_some_alone_iff.1 h
      refine ⟨by simpa using hne, hslash, .inl ?_⟩
      rw [← String.toList_inj, hpath]
      simp [root]
    | some name =>
      obtain ⟨hne, hslash, hname, hname', hpath⟩ := split?_eq_some_named_iff.1 h
      refine ⟨by simpa using hne, hslash, .inr ⟨String.ofList name, by simpa using hname, ?_, ?_⟩⟩
      · simpa using hname'
      · rw [← String.toList_inj, hpath]
        simp [root]

/-! ## The two resolvers -/

theorem rawBlobId?_eq_some_iff {path blob : String} : rawBlobId? path = some blob ↔ IsPathOf path blob := by
  rw [isPathOf_iff, rawBlobId?, Option.map_eq_some_iff]
  constructor
  · rintro ⟨⟨b, name⟩, h, rfl⟩
    exact ⟨name, by simpa using h⟩
  · rintro ⟨name, h⟩
    exact ⟨_, h, String.ofList_toList⟩

theorem ofString_eq_ok_iff {value : String} {blobId : BlobId} :
    BlobId.ofString value = .ok blobId ↔ blobId.value = value := by
  rw [← BlobId.ofString?_eq_some_iff, BlobId.ofString]
  split <;> simp_all

theorem ofString_value (blobId : BlobId) : BlobId.ofString blobId.value = .ok blobId := ofString_eq_ok_iff.2 rfl

/-- The blob id of a path is its blob segment as it stands. -/
theorem blobIdOf_eq_ok_iff {path : String} {blobId : BlobId} :
    blobIdOf path = .ok blobId ↔ IsPathOf path blobId.value := by
  rw [isPathOf_iff, blobIdOf]
  split
  · rename_i h
    simp [h]
  · rename_i blob name h
    rw [ofString_eq_ok_iff, h]
    constructor
    · rintro e
      exact ⟨name, by simp [e]⟩
    · rintro ⟨_, e⟩
      cases e
      simp

theorem isPathOf_of_resolve {path : String} {target : DownloadPath} (h : resolve path = .ok target) :
    IsPathOf path target.blobId.value := by
  rw [← blobIdOf_eq_ok_iff, blobIdOf]
  unfold resolve at h
  split at h
  · cases h
  · rename_i blob name hs
    cases hid : BlobId.ofString (String.ofList blob) with
    | error e => rw [hid] at h; cases h
    | ok blobId =>
      rw [hid] at h
      cases name with
      | none => cases h; rfl
      | some raw =>
        cases hn : decodeName (String.ofList raw) with
        | error e => simp only [hn] at h; cases h
        | ok name => simp only [hn] at h; cases h; rfl

theorem resolve_alone {blobId : BlobId} (hblob : '/' ∉ blobId.value.toList) :
    resolve ("/download/" ++ blobId.value) = .ok ⟨blobId, none⟩ := by
  have hs : split? ("/download/" ++ blobId.value) = some (blobId.value.toList, none) :=
    split?_eq_some_alone_iff.2 ⟨by simpa using blobId.ne_empty, hblob, by simp [root]⟩
  rw [resolve, hs]
  simp only [String.ofList_toList, ofString_value]
  rfl

/-- A name segment has to be decoded, or the path does not resolve. -/
theorem resolve_named {blobId : BlobId} {raw : String} (hblob : '/' ∉ blobId.value.toList) (hraw : raw ≠ "")
    (hslash : '/' ∉ raw.toList) :
    resolve ("/download/" ++ blobId.value ++ "/" ++ raw) = (decodeName raw).map (⟨blobId, some ·⟩) := by
  have hs : split? ("/download/" ++ blobId.value ++ "/" ++ raw) = some (blobId.value.toList, some raw.toList) :=
    split?_eq_some_named_iff.2
      ⟨by simpa using blobId.ne_empty, hblob, by simpa using hraw, hslash, by simp [root]⟩
  rw [resolve, hs]
  simp only [String.ofList_toList, ofString_value]
  cases decodeName raw <;> rfl

/-- The paths to a blob, whose id is one segment of them: alone, or with a segment that decodes to
a name. -/
inductive LeadsTo (blobId : BlobId) : String → Option String → Prop
  | alone (hblob : '/' ∉ blobId.value.toList) : LeadsTo blobId ("/download/" ++ blobId.value) none
  | named {raw name : String} (hblob : '/' ∉ blobId.value.toList) (hraw : raw ≠ "") (hslash : '/' ∉ raw.toList)
      (hname : decodeName raw = .ok name) :
      LeadsTo blobId ("/download/" ++ blobId.value ++ "/" ++ raw) (some name)

theorem LeadsTo.resolve {blobId : BlobId} {path : String} {name : Option String} (h : LeadsTo blobId path name) :
    resolve path = .ok ⟨blobId, name⟩ := by
  cases h with
  | alone hblob => exact resolve_alone hblob
  | named hblob hraw hslash hname =>
    rw [resolve_named hblob hraw hslash, hname]
    rfl

theorem status_of_ofString {value : String} {f : Failure} (h : BlobId.ofString value = .error f) :
    f.status = 400 := by
  unfold BlobId.ofString at h
  split at h <;> cases h
  rfl

theorem status_of_decodeName {raw : String} {f : Failure} (h : decodeName raw = .error f) : f.status = 400 := by
  unfold decodeName at h
  split at h
  · cases h
    rfl
  · split at h <;> cases h
    rfl

theorem status_of_blobIdOf {path : String} {f : Failure} (h : blobIdOf path = .error f) : f.status = 400 := by
  unfold blobIdOf at h
  split at h
  · cases h
    rfl
  · exact status_of_ofString h

/-- A path that does not resolve is the client's fault. -/
theorem status_of_resolve {path : String} {f : Failure} (h : resolve path = .error f) : f.status = 400 := by
  unfold resolve at h
  split at h
  · cases h
    rfl
  · rename_i blob name hs
    cases hid : BlobId.ofString (String.ofList blob) with
    | error e =>
      rw [hid] at h
      cases h
      exact status_of_ofString hid
    | ok blobId =>
      rw [hid] at h
      cases name with
      | none => cases h
      | some raw =>
        cases hn : decodeName (String.ofList raw) with
        | error e =>
          simp only [hn] at h
          cases h
          exact status_of_decodeName hn
        | ok name => simp only [hn] at h; cases h

/-- A path reaches one blob segment at most. -/
theorem IsPathOf.unique {path blob blob' : String} (h : IsPathOf path blob) (h' : IsPathOf path blob') :
    blob = blob' := by
  rw [← rawBlobId?_eq_some_iff] at h h'
  exact Option.some.inj (h.symm.trans h')

end DownloadPath

end DownloadGateway
