import DownloadGateway.Proofs.Name.EncodedWord
import DownloadGateway.Proofs.Name.Packing
/-!
# Encoded words are well-formed

Whatever the text, the words for it are all of one encoding, none is too long, and each can be
read without the others. What a piece costs is the length of its payload in `Q`, and in `B` the
number of bytes in it; so the limit on the cost is one on the word.
-/

namespace DownloadGateway.EncodedWord

/-! ## Lengths -/

theorem length_qByte_le (b : UInt8) : (qByte b).length ≤ 3 := by
  rw [qByte]
  split
  · exact Nat.le_add_left 1 2
  split
  · exact Nat.le_refl 3
  · exact Nat.le_add_left 1 2

theorem length_flatMap_qByte_le (bs : Bytes) : (bs.flatMap qByte).length ≤ bs.length * 3 := by
  induction bs with
  | nil => exact Nat.le_refl 0
  | cons b bs ih =>
    have := length_qByte_le b
    rw [List.flatMap_cons, List.length_append, List.length_cons]
    omega

/-- Four bytes at most, each escaped at worst. -/
theorem length_qChar_le (c : Char) : (qChar c).length ≤ 12 := by
  have hbytes := length_flatMap_qByte_le (Utf8.encodeChar c)
  have := Utf8.length_encodeChar_le c
  rw [qChar]
  omega

/-- A payload has room for any character. -/
theorem length_qChar_le_maxPayload (c : Char) : (qChar c).length ≤ maxPayload :=
  Nat.le_trans (length_qChar_le c) (by decide)

theorem length_encodeChar_le_maxRaw (c : Char) : (Utf8.encodeChar c).length ≤ maxRaw :=
  Nat.le_trans (Utf8.length_encodeChar_le c) (by decide)

/-- No piece has a payload that is too long: in `Q` its cost is the length, and in `B` it is the
number of bytes, four characters for each three. -/
theorem length_payload_le {e : Encoding} {cs piece : List Char} (h : piece ∈ e.pieces cs) :
    (e.payload piece).length ≤ maxPayload := by
  cases e with
  | q =>
    rw [Encoding.payload, length_flatMap_eq_total]
    exact total_le_of_mem_pack (fun c _ => length_qChar_le_maxPayload c) h
  | b =>
    have hbytes : (Utf8.encodeChars piece).length ≤ 45 := by
      rw [Utf8.encodeChars, length_flatMap_eq_total]
      exact total_le_of_mem_pack (fun c _ => length_encodeChar_le_maxRaw c) h
    have hlimit : 60 ≤ maxPayload := by decide
    rw [Encoding.payload, Base64.length_encode_standard]
    omega

theorem length_word_le {e : Encoding} {cs piece : List Char} (h : piece ∈ e.pieces cs) :
    (e.word piece).length ≤ maxWord := by
  have hpayload := length_payload_le h
  have hends : e.opening.length + maxPayload + closing.length = maxWord := by cases e <;> decide
  rw [Encoding.word, List.length_append, List.length_append]
  omega

/-- A word may be as long as that: one letter more begins the next. -/
example : (Encoding.q.words (List.replicate 64 'a')).map List.length = [75, 13] := by decide

theorem ne_nil_of_mem_pieces {e : Encoding} {cs piece : List Char} (hcs : cs ≠ []) (h : piece ∈ e.pieces cs) :
    piece ≠ [] := by
  cases e with
  | q => exact ne_nil_of_mem_pack (fun c _ => length_qChar_le_maxPayload c) hcs h
  | b => exact ne_nil_of_mem_pack (fun c _ => length_encodeChar_le_maxRaw c) hcs h

theorem toNat_lt_of_isInert {c : Char} (h : isInert c = true) : c.toNat < 0x80 := by
  simp only [isInert, Bool.and_eq_true, decide_eq_true_eq] at h
  omega

/-! ## Words -/

/-- The letter that names an encoding in a word. -/
def Encoding.letter : Encoding → Char
  | .q => 'Q'
  | .b => 'B'

/-- A word of an encoding as a quoted parameter may hold it. -/
structure IsWord (e : Encoding) (word : List Char) : Prop where
  /-- It is no longer than RFC 2047 allows. -/
  short : (Utf8.encodeChars word).length ≤ 75
  /-- Its payload ends neither the word nor the quotes around it. -/
  form : ∃ payload : List Char, word = "=?UTF-8?".toList ++ [e.letter, '?'] ++ payload ++ "?=".toList ∧
    ' ' ∉ payload ∧ '?' ∉ payload ∧ '"' ∉ payload ∧ '\\' ∉ payload

theorem not_mem_payload {c : Char} (hc : isPayloadChar c = false) (e : Encoding) (piece : List Char) :
    c ∉ e.payload piece := by
  intro h
  rw [isPayloadChar_of_mem h] at hc
  cases hc

theorem isWord_word {e : Encoding} {cs piece : List Char} (h : piece ∈ e.pieces cs) : IsWord e (e.word piece) where
  short := by
    rw [Utf8.length_encodeChars_of_ascii fun c hc => toNat_lt_of_isInert (of_mem_word hc).1]
    exact length_word_le h
  form := by
    have hopening : e.opening = "=?UTF-8?".toList ++ [e.letter, '?'] := by cases e <;> rfl
    refine ⟨e.payload piece, ?_, ?_, ?_, ?_, ?_⟩
    · rw [Encoding.word, hopening, closing]
    all_goals exact not_mem_payload (by decide) e piece

/-! ## Pieces -/

/-- Each word is the text of its piece, and the pieces make up the text. -/
theorem exists_parts (e : Encoding) (text : String) :
    ∃ parts : List String,
      (e.words text.toList).map (fun word => (readWord? word).bind Utf8.decode?) = parts.map some ∧
        String.join parts = text ∧ (text ≠ "" → "" ∉ parts) := by
  refine ⟨(e.pieces text.toList).map String.ofList, ?_, ?_, ?_⟩
  · rw [Encoding.words, List.map_map, List.map_map]
    refine List.map_congr_left fun piece _ => ?_
    have hdecode : Utf8.decode? (Utf8.encodeChars piece) = some (String.ofList piece) := by
      rw [Utf8.decode?_eq_some_iff, Utf8.encode, String.toList_ofList]
    rw [Function.comp_apply, readWord?_word, Option.bind_some, hdecode, Function.comp_apply]
  · rw [← String.toList_inj, String.toList_join, List.flatMap_map]
    simp [flatten_pieces]
  · intro htext hempty
    have hcs : text.toList ≠ [] := fun h => htext (String.toList_eq_nil_iff.1 h)
    obtain ⟨piece, hpiece, hnil⟩ := List.mem_map.1 hempty
    exact ne_nil_of_mem_pieces hcs hpiece (String.ofList_eq_empty_iff.1 hnil)

/-! ## The choice -/

theorem length_encodeChars_words (e : Encoding) (pieces : List (List Char)) :
    (Utf8.encodeChars ([' '].intercalate (pieces.map e.word))).length = ([' '].intercalate (pieces.map e.word)).length :=
  Utf8.length_encodeChars_of_ascii fun _ hc => toNat_lt_of_isInert (isInert_of_mem_words hc)

theorem length_encodeChars_joined (e : Encoding) (cs : List Char) :
    (Utf8.encodeChars (e.joined cs)).length = (e.joined cs).length := length_encodeChars_words e (e.pieces cs)

theorem choose_eq_q_iff (cs : List Char) :
    choose cs = .q ↔ (Encoding.q.joined cs).length ≤ (Encoding.b.joined cs).length := by
  rw [choose]
  split
  · rename_i hle
    exact iff_of_true rfl hle
  · rename_i hlt
    exact iff_of_false (fun h => by cases h) hlt

theorem opening_prefix_joined (e : Encoding) (cs : List Char) : e.opening <+: e.joined cs := by
  obtain ⟨word, words, hwords⟩ := List.exists_cons_of_ne_nil (words_ne_nil e cs)
  have hword : word ∈ (e.pieces cs).map e.word := by
    rw [← Encoding.words, hwords]
    exact List.mem_cons_self
  obtain ⟨piece, -, rfl⟩ := List.mem_map.1 hword
  have hopening : e.opening <+: e.word piece := by
    rw [Encoding.word, List.append_assoc]
    exact List.prefix_append ..
  rw [Encoding.joined, hwords]
  cases words with
  | nil => rwa [List.intercalate_singleton]
  | cons word' words =>
    rw [List.intercalate_cons_cons, List.append_assoc]
    exact hopening.trans (List.prefix_append ..)

/-- Words tell by their opening which encoding they are of. -/
theorem encoding_eq_of_joined {e e' : Encoding} {cs cs' : List Char} (h : e.joined cs = e'.joined cs') : e = e' := by
  have hlength : e.opening.length = e'.opening.length := by cases e <;> cases e' <;> decide
  have hprefix : e.opening <+: e'.opening :=
    List.prefix_of_prefix_length_le (opening_prefix_joined e cs) (h ▸ opening_prefix_joined e' cs')
      (Nat.le_of_eq hlength)
  have hopening : e.opening = e'.opening := hprefix.eq_of_length hlength
  revert hopening
  cases e <;> cases e' <;> decide

/-- Every text becomes words of one encoding, one space between two of them. Each is short, and
keeps to what a quoted parameter may hold; each is read by itself as a part of the text, and no
part is empty where the text is not. They are in `Q` exactly if that is no longer than `B`. -/
theorem encode_well_formed (text : String) :
    ∃ e : Encoding,
      encode text = String.ofList ([' '].intercalate (e.words text.toList)) ∧
      e.words text.toList ≠ [] ∧
      (∀ word ∈ e.words text.toList, IsWord e word) ∧
      (∃ parts : List String,
        (e.words text.toList).map (fun word => (readWord? word).bind Utf8.decode?) = parts.map some ∧
          String.join parts = text ∧ (text ≠ "" → "" ∉ parts)) ∧
      (encode text = String.ofList (Encoding.q.joined text.toList) ↔ e = .q) ∧
      (e = .q ↔
        (Utf8.encodeChars (Encoding.q.joined text.toList)).length ≤
          (Utf8.encodeChars (Encoding.b.joined text.toList)).length) := by
  refine ⟨choose text.toList, rfl, words_ne_nil _ _, ?_, exists_parts _ text, ⟨?_, ?_⟩, ?_⟩
  · intro word hword
    obtain ⟨piece, hpiece, rfl⟩ := List.mem_map.1 hword
    exact isWord_word hpiece
  · intro h
    exact encoding_eq_of_joined (String.ofList_injective h)
  · intro h
    rw [encode, h]
  · rw [length_encodeChars_joined, length_encodeChars_joined, choose_eq_q_iff]

end DownloadGateway.EncodedWord
