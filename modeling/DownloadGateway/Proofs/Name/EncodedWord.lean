import DownloadGateway.Name.EncodedWord
import DownloadGateway.Proofs.Text.Base64
import DownloadGateway.Proofs.Text.Utf8
import DownloadGateway.Text.Cut
/-!
# Encoded words are read as RFC 2047 has it

A reader for encoded words stands beside the writer: it cuts at the spaces, takes the opening
and the closing off each word and decodes what is between them, knowing nothing of how the
text was cut into pieces. Both encodings read back (`read?_joined`), and a payload holds nothing
that could end a word, or the quotes around it (`isPayloadChar_of_mem`).
-/

namespace DownloadGateway.EncodedWord

/-! ## Reading -/

/-- The bytes of a `Q` payload: `_` is a space, `=XX` a byte, and all else stands for itself. -/
def readQ? : List Char → Option Bytes
  | [] => some []
  | '=' :: h :: l :: cs => (Percent.escape? h l).bind fun b => (readQ? cs).map (b :: ·)
  | '=' :: _ => none
  | c :: cs => (readQ? cs).map ((if c = '_' then [0x20] else Utf8.encodeChar c) ++ ·)

/-- The bytes that a payload stands for. -/
def Encoding.read? : Encoding → List Char → Option Bytes
  | .q => readQ?
  | .b => Base64.decodePadded?

/-- What stands between the opening and the closing of a word in an encoding. -/
def Encoding.payload? (e : Encoding) (word : List Char) : Option (List Char) :=
  (Text.after? e.opening word).bind fun rest => (Text.after? closing.reverse rest.reverse).map List.reverse

/-- The bytes that a word stands for, in the encoding that its opening names. -/
def readWord? (word : List Char) : Option Bytes :=
  match Encoding.q.payload? word with
  | some payload => Encoding.q.read? payload
  | none => (Encoding.b.payload? word).bind Encoding.b.read?

/-- The bytes that words stand for, one space between two of them. -/
def read? (words : List Char) : Option Bytes := ((words.splitOn ' ').mapM readWord?).map List.flatten

/-! ## What a payload is made of -/

/-- Whether a payload may hold a character: it is visible, and ends neither a word nor the quotes
around it. -/
def isPayloadChar (c : Char) : Bool :=
  0x21 ≤ c.toNat && c.toNat ≤ 0x7E && c != '?' && c != '"' && c != '\\'

theorem isPayloadChar_qByte (b : UInt8) : ∀ c ∈ qByte b, isPayloadChar c = true := by
  have hall : ∀ n < 256, (qByte (.ofNat n)).all isPayloadChar = true := by decide +kernel
  have hb := hall b.toNat b.toNat_lt
  rwa [UInt8.ofNat_toNat, List.all_eq_true] at hb

theorem isPayloadChar_encode (bs : Bytes) : ∀ c ∈ Base64.encode .standard bs, isPayloadChar c = true := by
  have hdigit : ∀ n < 64, isPayloadChar (Base64.Alphabet.standard.digit n) = true := by decide +kernel
  intro c hc
  rw [Base64.encode_eq, List.mem_append] at hc
  rcases hc with hc | hc
  · obtain ⟨v, hv, rfl⟩ := List.mem_map.1 hc
    exact hdigit v (Base64.sextets_lt bs v hv)
  · rw [List.eq_of_mem_replicate hc]
    rfl

theorem isPayloadChar_of_mem {e : Encoding} {piece : List Char} {c : Char} (h : c ∈ e.payload piece) :
    isPayloadChar c = true := by
  cases e with
  | q =>
    obtain ⟨x, -, hx⟩ := List.mem_flatMap.1 h
    obtain ⟨b, -, hb⟩ := List.mem_flatMap.1 hx
    exact isPayloadChar_qByte b c hb
  | b => exact isPayloadChar_encode _ c h

/-- Whether a character is printable and can neither close a quoted string nor escape in it. -/
def isInert (c : Char) : Bool := 0x20 ≤ c.toNat && c.toNat ≤ 0x7E && c != '"' && c != '\\'

/-- A word is in one piece, and inert. -/
theorem of_mem_word {e : Encoding} {piece : List Char} {c : Char} (h : c ∈ e.word piece) :
    isInert c = true ∧ c ≠ ' ' := by
  have hends : ∀ c ∈ e.opening ++ closing, isInert c = true ∧ c ≠ ' ' := by
    have hall : (e.opening ++ closing).all (fun c => isInert c && c != ' ') = true := by cases e <;> decide
    intro c hc
    simpa using List.all_eq_true.1 hall c hc
  rw [Encoding.word, List.mem_append, List.mem_append] at h
  rcases h with (h | h) | h
  · exact hends c (List.mem_append_left _ h)
  · have hc := isPayloadChar_of_mem h
    simp only [isPayloadChar, Bool.and_eq_true, decide_eq_true_eq, bne_iff_ne] at hc
    obtain ⟨⟨⟨⟨hlo, hhi⟩, -⟩, hquote⟩, hslash⟩ := hc
    refine ⟨?_, ?_⟩
    · simp [isInert, hquote, hslash, hhi]
      omega
    · rintro rfl
      revert hlo
      decide
  · exact hends c (List.mem_append_right _ h)

theorem of_mem_intercalate {sep : List Char} {words : List (List Char)} {c : Char} (h : c ∈ sep.intercalate words) :
    c ∈ sep ∨ ∃ word ∈ words, c ∈ word := by
  induction words with
  | nil => simp at h
  | cons word words ih =>
    cases words with
    | nil =>
      rw [List.intercalate_singleton] at h
      exact .inr ⟨word, List.mem_singleton_self _, h⟩
    | cons word' words =>
      rw [List.intercalate_cons_cons, List.mem_append, List.mem_append] at h
      rcases h with (h | h) | h
      · exact .inr ⟨word, List.mem_cons_self, h⟩
      · exact .inl h
      · exact (ih h).imp_right fun ⟨w, hw, hc⟩ => ⟨w, List.mem_cons_of_mem _ hw, hc⟩

/-- So are words with spaces between them, however the text was cut. -/
theorem isInert_of_mem_words {e : Encoding} {pieces : List (List Char)} {c : Char}
    (h : c ∈ [' '].intercalate (pieces.map e.word)) : isInert c = true := by
  rcases of_mem_intercalate h with h | ⟨word, hword, h⟩
  · rw [List.mem_singleton.1 h]
    rfl
  · obtain ⟨piece, -, rfl⟩ := List.mem_map.1 hword
    exact (of_mem_word h).1

theorem isInert_of_mem_joined {e : Encoding} {cs : List Char} {c : Char} (h : c ∈ e.joined cs) :
    isInert c = true := isInert_of_mem_words h

/-! ## The round trip -/

theorem hexValue?_hexDigit : ∀ n < 16, Percent.hexValue? (Percent.hexDigit n) = some n := by decide

theorem escape?_hexDigit (b : UInt8) :
    Percent.escape? (Percent.hexDigit (b.toNat / 16)) (Percent.hexDigit (b.toNat % 16)) = some b := by
  have hb := b.toNat_lt
  rw [Percent.escape?, hexValue?_hexDigit _ (by omega), hexValue?_hexDigit _ (by omega)]
  dsimp only
  rw [show b.toNat / 16 * 16 + b.toNat % 16 = b.toNat by omega, UInt8.ofNat_toNat]

theorem readQ?_cons_of_ne {c : Char} (h : c ≠ '=') (cs : List Char) :
    readQ? (c :: cs) = (readQ? cs).map ((if c = '_' then [0x20] else Utf8.encodeChar c) ++ ·) := by
  rw [readQ?]
  · intro _ _ _ hc
    exact absurd hc h
  · exact h

theorem readQ?_qByte (b : UInt8) (rest : List Char) : readQ? (qByte b ++ rest) = (readQ? rest).map (b :: ·) := by
  rw [qByte]
  split
  · rename_i hspace
    rw [List.singleton_append, readQ?_cons_of_ne (by decide), if_pos rfl, hspace]
    rfl
  split
  · rw [List.cons_append, List.cons_append, List.singleton_append, readQ?, escape?_hexDigit, Option.bind_some]
  · rename_i hplain
    have hb := b.toNat_lt
    simp only [needsEscape, Bool.or_eq_true, decide_eq_true_eq, beq_iff_eq, not_or] at hplain
    have hc : (Char.ofNat b.toNat).toNat = b.toNat := Utf8.toNat_ofNat_of_valid (by omega)
    have hne (c : Char) (h : c.toNat ≠ b.toNat) : Char.ofNat b.toNat ≠ c := by
      rintro rfl
      exact h hc
    rw [List.singleton_append, readQ?_cons_of_ne (hne '=' (by simp; omega)), if_neg (hne '_' (by simp; omega)),
      Utf8.encodeChar_of_lt (by omega), hc, UInt8.ofNat_toNat]
    rfl

theorem readQ?_flatMap_qByte (bs : Bytes) (rest : List Char) :
    readQ? (bs.flatMap qByte ++ rest) = (readQ? rest).map (bs ++ ·) := by
  induction bs with
  | nil => simp
  | cons b bs ih =>
    rw [List.flatMap_cons, List.append_assoc, readQ?_qByte, ih, Option.map_map]
    rfl

/-- A payload is read as the bytes of its piece. -/
theorem read?_payload (e : Encoding) (piece : List Char) : e.read? (e.payload piece) = some (Utf8.encodeChars piece) := by
  cases e with
  | q =>
    have h := readQ?_flatMap_qByte (Utf8.encodeChars piece) []
    rw [List.append_nil, Utf8.encodeChars, List.flatMap_assoc] at h
    rw [Encoding.read?, Encoding.payload, show qChar = fun c => (Utf8.encodeChar c).flatMap qByte from rfl, h]
    simp [readQ?, Utf8.encodeChars]
  | b => exact Base64.decodePadded?_encode _

theorem payload?_word (e : Encoding) (piece : List Char) : e.payload? (e.word piece) = some (e.payload piece) := by
  rw [Encoding.payload?, Encoding.word, List.append_assoc, Text.after?_eq_some_iff.2 rfl, Option.bind_some,
    List.reverse_append, Text.after?_eq_some_iff.2 rfl, Option.map_some, List.reverse_reverse]

/-- Each word is read by itself. -/
theorem readWord?_word (e : Encoding) (piece : List Char) : readWord? (e.word piece) = some (Utf8.encodeChars piece) := by
  cases e with
  | q =>
    rw [readWord?, payload?_word]
    exact read?_payload .q piece
  | b =>
    -- The opening of the word is not the one of a word in the other encoding.
    have hq : Encoding.q.payload? (Encoding.b.word piece) = none := rfl
    rw [readWord?, hq, payload?_word]
    exact read?_payload .b piece

theorem flatten_pieces (e : Encoding) (cs : List Char) : (e.pieces cs).flatten = cs := by
  cases e <;> exact flatten_packFrom ..

theorem words_ne_nil (e : Encoding) (cs : List Char) : e.words cs ≠ [] := by
  intro h
  have hpieces : e.pieces cs = [] := List.map_eq_nil_iff.1 h
  cases e <;> exact packFrom_ne_nil _ _ _ _ _ hpieces

theorem splitOn_joined (e : Encoding) (cs : List Char) : (e.joined cs).splitOn ' ' = e.words cs := by
  refine List.splitOn_intercalate ' ' (fun word hword => ?_) (words_ne_nil e cs)
  obtain ⟨piece, -, rfl⟩ := List.mem_map.1 hword
  exact fun h => (of_mem_word h).2 rfl

/-- The words for a text are read as its bytes, in either encoding and however it was cut. -/
theorem read?_joined (e : Encoding) (cs : List Char) : read? (e.joined cs) = some (Utf8.encodeChars cs) := by
  have hwords : (e.words cs).mapM readWord? = some ((e.pieces cs).map Utf8.encodeChars) := by
    rw [Encoding.words, List.mapM_map]
    generalize e.pieces cs = pieces
    induction pieces with
    | nil => rfl
    | cons piece pieces ih =>
      rw [List.mapM_cons, Function.comp_apply, readWord?_word, ih]
      rfl
  rw [read?, splitOn_joined, hwords, Option.map_some, ← Utf8.encodeChars_flatten, flatten_pieces]

theorem read?_encode (s : String) : read? (encode s).toList = some (Utf8.encode s) := by
  rw [encode, String.toList_ofList, read?_joined]
  rfl

end DownloadGateway.EncodedWord
