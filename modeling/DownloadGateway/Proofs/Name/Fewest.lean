import DownloadGateway.Proofs.Name.WellFormed
/-!
# Encoded words are as few as can be

What a piece may hold is bounded by the length of its payload in `Q`, and in `B` by the number of
its bytes. Of all ways to cut a text into such pieces, the words for it are those of one with the
fewest pieces. In `Q` the payloads together are the same however the text is cut, and each further
word costs what stands around its payload and the space in front of it; so the fewest words are the
shortest.
-/

namespace DownloadGateway.EncodedWord

variable {e : Encoding} {cs piece : List Char} {pieces : List (List Char)}

/-- Whether a word has room for a piece. -/
def Fits : Encoding → List Char → Prop
  | .q, piece => (Utf8.encodeChars (Encoding.q.payload piece)).length ≤ 63
  | .b, piece => (Utf8.encodeChars piece).length ≤ 45

instance : (e : Encoding) → (piece : List Char) → Decidable (Fits e piece)
  | .q, piece => inferInstanceAs (Decidable ((Utf8.encodeChars (Encoding.q.payload piece)).length ≤ 63))
  | .b, piece => inferInstanceAs (Decidable ((Utf8.encodeChars piece).length ≤ 45))

theorem length_encodeChars_payload (e : Encoding) (piece : List Char) :
    (Utf8.encodeChars (e.payload piece)).length = (e.payload piece).length := by
  refine Utf8.length_encodeChars_of_ascii fun c hc => ?_
  have hpayload := isPayloadChar_of_mem hc
  simp only [isPayloadChar, Bool.and_eq_true, decide_eq_true_eq] at hpayload
  omega

theorem fits_q_iff : Fits .q piece ↔ total (fun c => (qChar c).length) piece ≤ maxPayload := by
  rw [Fits, length_encodeChars_payload, Encoding.payload, length_flatMap_eq_total]
  rfl

theorem fits_b_iff : Fits .b piece ↔ total (fun c => (Utf8.encodeChar c).length) piece ≤ maxRaw := by
  rw [Fits, Utf8.encodeChars, length_flatMap_eq_total]
  rfl

theorem cuts_pieces (e : Encoding) (cs : List Char) : Cuts cs (e.pieces cs) := by
  refine cuts_iff.2 ⟨fun hnil => words_ne_nil e cs ?_, flatten_pieces e cs⟩
  rw [Encoding.words, hnil, List.map_nil]

theorem fits_of_mem_pieces (h : piece ∈ e.pieces cs) : Fits e piece := by
  cases e with
  | q => exact fits_q_iff.2 (total_le_of_mem_pack (fun c _ => length_qChar_le_maxPayload c) h)
  | b => exact fits_b_iff.2 (total_le_of_mem_pack (fun c _ => length_encodeChar_le_maxRaw c) h)

theorem length_words_le (h : Cuts cs pieces) (hfits : ∀ piece ∈ pieces, Fits e piece) :
    (e.words cs).length ≤ pieces.length := by
  rw [Encoding.words, List.length_map]
  cases e with
  | q => exact length_pack_le h fun piece hpiece => fits_q_iff.1 (hfits piece hpiece)
  | b => exact length_pack_le h fun piece hpiece => fits_b_iff.1 (hfits piece hpiece)

/-! ## The length of words in `Q` -/

theorem length_word_q (piece : List Char) : (Encoding.q.word piece).length = (piece.flatMap qChar).length + 12 := by
  rw [Encoding.word, List.length_append, List.length_append, Encoding.payload, Nat.add_right_comm, Nat.add_comm]
  rfl

/-- Each word takes twelve bytes besides its payload, and one for the space between two of them. -/
theorem length_words_of_cuts (h : Cuts cs pieces) :
    ([' '].intercalate (pieces.map Encoding.q.word)).length + 1 = (cs.flatMap qChar).length + 13 * pieces.length := by
  induction h with
  | whole cs =>
    rw [List.map_singleton, List.intercalate_singleton, length_word_q]
    rfl
  | @cut front back pieces h ih =>
    obtain ⟨next, rest, hwords⟩ := List.exists_cons_of_ne_nil fun hnil : pieces.map Encoding.q.word = [] =>
      (cuts_iff.1 h).1 (List.map_eq_nil_iff.1 hnil)
    rw [hwords] at ih
    rw [List.map_cons, hwords, List.intercalate_cons_cons, List.flatMap_append]
    simp only [List.length_append, List.length_cons, length_word_q, List.length_nil] at ih ⊢
    omega

/-! ## The fewest words -/

/-- The words for a text are those of a cut of it into pieces that words have room for, in either
encoding, and no such cut has fewer pieces. So none makes a shorter text in `Q`. A text that is empty
is one piece, and one word. -/
theorem words_fewest (text : String) :
    (∀ e : Encoding,
      (∃ pieces, e.words text.toList = pieces.map e.word ∧ Cuts text.toList pieces ∧ ∀ piece ∈ pieces, Fits e piece) ∧
      ∀ pieces, Cuts text.toList pieces → (∀ piece ∈ pieces, Fits e piece) →
        (e.words text.toList).length ≤ pieces.length) ∧
    ∀ pieces, Cuts text.toList pieces → (∀ piece ∈ pieces, Fits .q piece) →
      (Utf8.encodeChars (Encoding.q.joined text.toList)).length ≤
        (Utf8.encodeChars ([' '].intercalate (pieces.map Encoding.q.word))).length := by
  refine ⟨fun e => ⟨?_, fun pieces => length_words_le⟩, fun pieces hcuts hfits => ?_⟩
  · exact ⟨e.pieces text.toList, rfl, cuts_pieces e _, fun piece => fits_of_mem_pieces⟩
  · have hfewest : (Encoding.q.pieces text.toList).length ≤ pieces.length := by
      simpa [Encoding.words] using length_words_le hcuts hfits
    have hjoined := length_words_of_cuts (cuts_pieces .q text.toList)
    have hother := length_words_of_cuts hcuts
    rw [Encoding.joined, Encoding.words, length_encodeChars_words, length_encodeChars_words]
    omega

/-- Two halves that both fit are as many words as one that is full and one for the rest. -/
theorem words_fewest_of_halves :
    let text := String.ofList (List.replicate 64 'a')
    let half := List.replicate 32 'a'
    Cuts text.toList [half, half] ∧ (∀ piece ∈ [half, half], Fits .q piece) ∧ (Encoding.q.words text.toList).length ≤ 2 ∧
      (Utf8.encodeChars (Encoding.q.joined text.toList)).length ≤
        (Utf8.encodeChars ([' '].intercalate ([half, half].map Encoding.q.word))).length := by
  intro text half
  have htext : text.toList = half ++ half := by rw [String.toList_ofList, List.replicate_append_replicate]
  have hcuts : Cuts text.toList [half, half] := htext ▸ .cut half (.whole half)
  have hfits : ∀ piece ∈ [half, half], Fits .q piece := by decide
  obtain ⟨hfewest, hshortest⟩ := words_fewest text
  exact ⟨hcuts, hfits, (hfewest .q).2 _ hcuts hfits, hshortest _ hcuts hfits⟩

end DownloadGateway.EncodedWord
