import DownloadGateway.Proofs.Text.Utf8
import DownloadGateway.Text.Percent
/-!
# Escapes read in passes, and in one

A form text in which every `%` starts an escape is a sequence of pieces, and each piece
stands for its bytes: `Reads` goes through it once. The passes of the reader that refuses
wrong escapes come to the same, though each of them sees bytes and not the pieces, since
a `%` can be nothing but the start of an escape and no other character has its byte.
`Spells` says which form texts stand for a text: exactly those that read as its UTF-8.
-/

namespace DownloadGateway.Percent

open Utf8 (encodeChar encodeChars)

variable {c h l : Char} {hi lo v : Nat} {cs rest : List Char} {b : UInt8} {bs : Bytes}

/-! ## Digits -/

/-- A hexadecimal digit of either case, and its value. -/
def Digit (c : Char) (v : Nat) : Prop :=
  "0123456789abcdef".toList[v]? = some c ∨ "0123456789ABCDEF".toList[v]? = some c

instance : Decidable (Digit c v) := inferInstanceAs (Decidable (_ ∨ _))

theorem Digit.lt (h : Digit c v) : v < 16 := by
  rcases h with h | h <;> exact (List.getElem?_eq_some_iff.1 h).1

theorem lt_of_hexValue? (h : hexValue? c = some v) : c.toNat < 0x80 := by
  unfold hexValue? at h
  grind

theorem digit_of_hexValue? (h : hexValue? c = some v) : Digit c v := by
  have hascii : ∀ n < 0x80, ∀ v ∈ hexValue? (Char.ofNat n), Digit (Char.ofNat n) v := by decide +kernel
  rw [← Char.ofNat_toNat c] at h ⊢
  exact hascii _ (by simpa using lt_of_hexValue? h) v h

theorem hexValue?_of_digit (h : Digit c v) : hexValue? c = some v := by
  have lower : ∀ v < 16, ("0123456789abcdef".toList[v]?).bind hexValue? = some v := by decide
  have upper : ∀ v < 16, ("0123456789ABCDEF".toList[v]?).bind hexValue? = some v := by decide
  rcases h with hc | hc
  · have := lower v (Digit.lt (.inl hc))
    rwa [hc] at this
  · have := upper v (Digit.lt (.inr hc))
    rwa [hc] at this

theorem hexValue?_eq_some_iff : hexValue? c = some v ↔ Digit c v :=
  ⟨digit_of_hexValue?, hexValue?_of_digit⟩

theorem escape?_eq_some_iff :
    escape? h l = some b ↔ ∃ hi lo, Digit h hi ∧ Digit l lo ∧ b = .ofNat (hi * 16 + lo) := by
  simp only [← hexValue?_eq_some_iff]
  unfold escape?
  split
  · rename_i hh hl
    simp [hh, hl, eq_comm]
  · rename_i hno
    constructor
    · intro h
      cases h
    · rintro ⟨hi, lo, hh, hl, -⟩
      exact absurd hl (hno _ _ hh)

theorem Digit.lt_ascii (h : Digit c v) : c.toNat < 0x80 := lt_of_hexValue? (hexValue?_of_digit h)

theorem Digit.ne_percent (h : Digit c v) : c ≠ '%' := by
  rintro rfl
  cases hexValue?_of_digit h

theorem Digit.ne_plus (h : Digit c v) : c ≠ '+' := by
  rintro rfl
  cases hexValue?_of_digit h

/-! ## Texts without wrong escapes -/

/-- Every `%` is followed by two hexadecimal digits. -/
def WellEscaped (cs : List Char) : Prop :=
  ∀ before after, cs = before ++ '%' :: after →
    ∃ h l rest hi lo, after = h :: l :: rest ∧ Digit h hi ∧ Digit l lo

theorem WellEscaped.tail (h : WellEscaped (c :: cs)) : WellEscaped cs := by
  rintro before after rfl
  exact h (c :: before) after rfl

theorem WellEscaped.cons (hc : c ≠ '%') (h : WellEscaped cs) : WellEscaped (c :: cs) := by
  rintro (_ | ⟨d, before⟩) after heq
  · exact absurd (List.cons.inj heq).1 hc
  · exact h before after (List.cons.inj heq).2

theorem WellEscaped.escape (hh : Digit h hi) (hl : Digit l lo) (hcs : WellEscaped cs) :
    WellEscaped ('%' :: h :: l :: cs) := by
  rintro (_ | ⟨d, before⟩) after heq
  · exact ⟨h, l, cs, hi, lo, (List.cons.inj heq).2.symm, hh, hl⟩
  · exact (hcs.cons hl.ne_percent).cons hh.ne_percent before after (List.cons.inj heq).2

/-! ## One pass -/

/-- What a form text stands for, piece by piece from left to right. -/
inductive Reads : List Char → Bytes → Prop
  | nil : Reads [] []
  | space {cs : List Char} {bs : Bytes} (hcs : Reads cs bs) : Reads ('+' :: cs) (0x20 :: bs)
  | escape {h l : Char} {hi lo : Nat} {cs : List Char} {bs : Bytes} (hh : Digit h hi) (hl : Digit l lo)
      (hcs : Reads cs bs) : Reads ('%' :: h :: l :: cs) (.ofNat (hi * 16 + lo) :: bs)
  | literal {c : Char} {cs : List Char} {bs : Bytes} (hc : c ≠ '%') (hplus : c ≠ '+') (hcs : Reads cs bs) :
      Reads (c :: cs) (encodeChar c ++ bs)

theorem lenient_escape (hh : Digit h hi) (hl : Digit l lo) (cs : List Char) :
    lenient ('%' :: h :: l :: cs) = .ofNat (hi * 16 + lo) :: lenient cs := by
  rw [lenient, escape?_eq_some_iff.2 ⟨hi, lo, hh, hl, rfl⟩]

theorem lenient_cons_of_ne (hc : c ≠ '%') (cs : List Char) :
    lenient (c :: cs) = (if c = '+' then [0x20] else encodeChar c) ++ lenient cs := by
  rw [lenient]
  intro _ _ _ hc'
  exact absurd hc' hc

/-- Text without escapes and plus signs stands for itself. -/
theorem lenient_of_plain (h : '%' ∉ cs) (hplus : '+' ∉ cs) : lenient cs = encodeChars cs := by
  induction cs with
  | nil => rfl
  | cons c cs ih =>
    simp only [List.mem_cons, not_or] at h hplus
    rw [lenient_cons_of_ne (Ne.symm h.1), if_neg (Ne.symm hplus.1), ih h.2 hplus.2, Utf8.encodeChars_cons]

theorem Reads.lenient_eq (h : Reads cs bs) : lenient cs = bs := by
  induction h with
  | nil => rfl
  | space hcs ih =>
    rw [lenient_cons_of_ne (by decide), ih]
    rfl
  | escape hh hl hcs ih => rw [lenient_escape hh hl, ih]
  | literal hc hplus hcs ih => rw [lenient_cons_of_ne hc, if_neg hplus, ih]

theorem Reads.wellEscaped (h : Reads cs bs) : WellEscaped cs := by
  induction h with
  | nil => simp [WellEscaped]
  | space hcs ih => exact ih.cons (by decide)
  | escape hh hl hcs ih => exact ih.escape hh hl
  | literal hc hplus hcs ih => exact ih.cons hc

theorem WellEscaped.reads (hcs : WellEscaped cs) : Reads cs (lenient cs) := by
  fun_induction lenient cs with
  | case1 => exact .nil
  | case2 h l cs b hb ih =>
    obtain ⟨hi, lo, hh, hl, rfl⟩ := escape?_eq_some_iff.1 hb
    exact .escape hh hl (ih hcs.tail.tail.tail)
  | case3 h l cs hno ih =>
    obtain ⟨_, _, _, hi, lo, ⟨⟩, hh, hl⟩ := hcs [] _ rfl
    rw [escape?_eq_some_iff.2 ⟨hi, lo, hh, hl, rfl⟩] at hno
    cases hno
  | case4 c cs hno ih =>
    have hc : c ≠ '%' := by
      rintro rfl
      obtain ⟨h, l, rest, -, -, rfl, -, -⟩ := hcs [] _ rfl
      exact hno h l rest rfl rfl
    split
    · rename_i hplus
      subst hplus
      exact .space (ih hcs.tail)
    · exact .literal hc ‹_› (ih hcs.tail)

/-- A text reads as bytes if its escapes are right and they are what a single pass makes of it. -/
theorem reads_iff : Reads cs bs ↔ WellEscaped cs ∧ lenient cs = bs := by
  constructor
  · exact fun h => ⟨h.wellEscaped, h.lenient_eq⟩
  · rintro ⟨h, rfl⟩
    exact h.reads

/-! ## The passes -/

theorem percent_notMem (hc : c ≠ '%') : 0x25 ∉ encodeChar c := by
  intro hb
  by_cases h : c.toNat < 0x80
  · rw [Utf8.encodeChar_of_lt h, List.mem_singleton, Utf8.byte_eq_iff (by omega)] at hb
    refine hc ?_
    rw [← Char.ofNat_toNat c, ← hb]
    rfl
  · exact absurd (Utf8.ge_of_mem_encodeChar (by omega) hb) (by decide)

theorem encodeChar_percent : encodeChar '%' = [0x25] := by decide

theorem charOf_ofNat (h : c.toNat < 0x80) : charOf (.ofNat c.toNat) = c := by
  rw [charOf, UInt8.toNat_ofNat', Nat.mod_eq_of_lt (by omega), Char.ofNat_toNat]

theorem isDigit_iff : isDigit b ↔ ∃ v, Digit (charOf b) v := by
  simp only [isDigit, Option.isSome_iff_exists, hexValue?_eq_some_iff]

theorem malformed_cons (b : UInt8) (bs : Bytes) (h : b ≠ 0x25) : malformed (b :: bs) = malformed bs := by
  simp [malformed, h]

theorem malformed_append (h : 0x25 ∉ bs) (more : Bytes) : malformed (bs ++ more) = malformed more := by
  induction bs with
  | nil => rfl
  | cons b bs ih =>
    rw [List.mem_cons, not_or] at h
    rw [List.cons_append, malformed_cons _ _ (Ne.symm h.1), ih h.2]

theorem malformed_of_append {more : Bytes} (h : malformed (bs ++ more) = false) : malformed more = false := by
  induction bs with
  | nil => exact h
  | cons b bs ih =>
    rw [List.cons_append, malformed, Bool.or_eq_false_iff] at h
    exact ih h.2

theorem unescape_cons (h : b ≠ 0x25) (bs : Bytes) : unescape (b :: bs) = b :: unescape bs := by
  match bs with
  | [] => rfl
  | [_] => rfl
  | _ :: _ :: _ => rw [unescape, if_neg h]

theorem unescape_append (h : 0x25 ∉ bs) (more : Bytes) : unescape (bs ++ more) = bs ++ unescape more := by
  induction bs with
  | nil => rfl
  | cons b bs ih =>
    rw [List.mem_cons, not_or] at h
    rw [List.cons_append, unescape_cons (Ne.symm h.1), ih h.2, List.cons_append]

/-- In bytes, a digit is the character that it is. -/
theorem Digit.bytes (h : Digit c v) :
    ∃ b : UInt8, encodeChar c = [b] ∧ charOf b = c ∧ b ≠ 0x25 := by
  refine ⟨_, Utf8.encodeChar_of_lt h.lt_ascii, charOf_ofNat h.lt_ascii, fun hb => percent_notMem h.ne_percent ?_⟩
  rw [Utf8.encodeChar_of_lt h.lt_ascii, hb]
  exact List.mem_singleton_self _

theorem encodeChars_escape {d e : UInt8} (hd : encodeChar h = [d]) (he : encodeChar l = [e]) (cs : List Char) :
    encodeChars ('%' :: h :: l :: cs) = 0x25 :: d :: e :: encodeChars cs := by
  simp only [Utf8.encodeChars_cons, encodeChar_percent, hd, he, List.singleton_append]

theorem Reads.malformed_eq_false (h : Reads cs bs) : malformed (encodeChars cs) = false := by
  induction h with
  | nil => rfl
  | space hcs ih => rw [Utf8.encodeChars_cons, malformed_append (percent_notMem (by decide)), ih]
  | escape hh hl hcs ih =>
    obtain ⟨d, hd, hdc, hd'⟩ := hh.bytes
    obtain ⟨e, he, hec, he'⟩ := hl.bytes
    have hdigits : isDigit d ∧ isDigit e := by
      rw [isDigit_iff, isDigit_iff, hdc, hec]
      exact ⟨⟨_, hh⟩, _, hl⟩
    rw [encodeChars_escape hd he, malformed, malformed_cons _ _ hd', malformed_cons _ _ he', ih]
    simp [hdigits]
  | literal hc hplus hcs ih => rw [Utf8.encodeChars_cons, malformed_append (percent_notMem hc), ih]

/-- A byte that is a digit is a character of its own. -/
theorem exists_digit (hd : isDigit b) (h : b :: bs = encodeChars cs) :
    ∃ c v rest, cs = c :: rest ∧ Digit c v ∧ bs = encodeChars rest := by
  obtain ⟨v, hv⟩ := isDigit_iff.1 hd
  have hlt : b.toNat < 0x80 := by
    have := hv.lt_ascii
    rwa [charOf, Utf8.toNat_ofNat_of_valid (by have := b.toNat_lt; omega)] at this
  match cs, h with
  | c :: cs, h =>
    have hfront := Utf8.front_of_eq_append (h.trans (Utf8.encodeChars_cons c cs))
    rw [Utf8.front_of_lt _ hlt] at hfront
    cases hfront
    exact ⟨_, v, cs, rfl, hv, rfl⟩

theorem wellEscaped_of_malformed (h : malformed (encodeChars cs) = false) : WellEscaped cs := by
  rintro before after rfl
  rw [Utf8.encodeChars_append, Utf8.encodeChars_cons, encodeChar_percent] at h
  have hescape := malformed_of_append h
  rw [List.singleton_append, malformed, Bool.or_eq_false_iff] at hescape
  have hdigits : (encodeChars after)[0]?.any isDigit ∧ (encodeChars after)[1]?.any isDigit := by
    simpa using hescape.1
  match hbytes : encodeChars after, hdigits with
  | d :: e :: bs, hdigits =>
    have hd : isDigit d := by simpa using hdigits.1
    have he : isDigit e := by simpa using hdigits.2
    obtain ⟨h, hi, rest, rfl, hh, hrest⟩ := exists_digit hd hbytes.symm
    obtain ⟨l, lo, rest, rfl, hl, -⟩ := exists_digit he hrest
    exact ⟨_, _, rest, hi, lo, rfl, hh, hl⟩

/-- The first pass tells the texts in which every escape is right from all others. -/
theorem malformed_eq_false_iff : malformed (encodeChars cs) = false ↔ WellEscaped cs :=
  ⟨wellEscaped_of_malformed, fun h => h.reads.malformed_eq_false⟩

theorem spaced_cons (hc : c ≠ '+') (cs : List Char) : spaced (c :: cs) = c :: spaced cs := by
  simp [spaced, hc]

/-- The other two leave what a single pass makes of the text. -/
theorem Reads.unescape_eq (h : Reads cs bs) : unescape (encodeChars (spaced cs)) = bs := by
  induction h with
  | nil => rfl
  | space hcs ih =>
    rw [show ∀ cs, spaced ('+' :: cs) = ' ' :: spaced cs from fun _ => rfl, Utf8.encodeChars_cons,
      unescape_append (percent_notMem (by decide)), ih]
    rfl
  | escape hh hl hcs ih =>
    obtain ⟨d, hd, hdc, hd'⟩ := hh.bytes
    obtain ⟨e, he, hec, he'⟩ := hl.bytes
    rw [spaced_cons (by decide), spaced_cons hh.ne_plus, spaced_cons hl.ne_plus, encodeChars_escape hd he,
      unescape, if_pos rfl, hdc, hec, escape?_eq_some_iff.2 ⟨_, _, hh, hl, rfl⟩, ih]
  | literal hc hplus hcs ih =>
    rw [spaced_cons hplus, Utf8.encodeChars_cons, unescape_append (percent_notMem hc), ih]

/-! ## Ways to write a text -/

/-- Bytes written as escapes, with digits of either case. -/
inductive Escapes : Bytes → List Char → Prop
  | nil : Escapes [] []
  | cons {h l : Char} {hi lo : Nat} {bs : Bytes} {cs : List Char} (hh : Digit h hi) (hl : Digit l lo)
      (hcs : Escapes bs cs) : Escapes (.ofNat (hi * 16 + lo) :: bs) ('%' :: h :: l :: cs)

/-- The ways to write a character: as it is, a space as a plus, or all its bytes as escapes. -/
inductive Writes : Char → List Char → Prop
  | literal {c : Char} (hc : c ≠ '%') (hplus : c ≠ '+') : Writes c [c]
  | plus : Writes ' ' ['+']
  | escaped {c : Char} {cs : List Char} (hcs : Escapes (encodeChar c) cs) : Writes c cs

/-- The ways to write a text, each character in its own way. -/
inductive Spells : List Char → List Char → Prop
  | nil : Spells [] []
  | cons {c : Char} {piece name raw : List Char} (hpiece : Writes c piece) (hraw : Spells name raw) :
      Spells (c :: name) (piece ++ raw)

theorem Escapes.reads_append {more : Bytes} (h : Escapes bs cs) (hrest : Reads rest more) :
    Reads (cs ++ rest) (bs ++ more) := by
  induction h with
  | nil => exact hrest
  | cons hh hl hcs ih => exact .escape hh hl ih

theorem Writes.reads_append {piece : List Char} (h : Writes c piece) (hrest : Reads rest bs) :
    Reads (piece ++ rest) (encodeChar c ++ bs) := by
  cases h with
  | literal hc hplus => exact .literal hc hplus hrest
  | plus => exact .space hrest
  | escaped hcs => exact hcs.reads_append hrest

theorem Spells.reads {name raw : List Char} (h : Spells name raw) : Reads raw (encodeChars name) := by
  induction h with
  | nil => exact .nil
  | cons hpiece hraw ih => exact hpiece.reads_append ih

/-- No piece but an escape stands for a continuation byte alone. -/
theorem Reads.exists_escape (h : Reads cs (b :: bs)) (hb : Utf8.IsContinuation b) :
    ∃ h l hi lo rest, cs = '%' :: h :: l :: rest ∧ Digit h hi ∧ Digit l lo ∧ b = .ofNat (hi * 16 + lo) ∧
      Reads rest bs := by
  generalize hbytes : b :: bs = bytes at h
  cases h with
  | nil => cases hbytes
  | space hcs =>
    cases hbytes
    exact absurd hb.1 (by decide)
  | escape hh hl hcs =>
    cases hbytes
    exact ⟨_, _, _, _, _, rfl, hh, hl, rfl, hcs⟩
  | literal hc hplus hcs =>
    obtain ⟨d, tail, hd, hlead, -⟩ := Utf8.encodeChar_eq_cons ‹Char›
    rw [hd] at hbytes
    cases hbytes
    exact absurd hb hlead

/-- So continuation bytes are written as escapes, as many as there are of them. -/
theorem Reads.exists_escapes {tail : Bytes} (h : Reads cs (tail ++ bs)) (ht : ∀ t ∈ tail, Utf8.IsContinuation t) :
    ∃ piece rest, cs = piece ++ rest ∧ Escapes tail piece ∧ Reads rest bs := by
  induction tail generalizing cs with
  | nil => exact ⟨[], cs, rfl, .nil, h⟩
  | cons t tail ih =>
    obtain ⟨ht, htail⟩ := List.forall_mem_cons.1 ht
    obtain ⟨d, e, hi, lo, rest, rfl, hd, he, rfl, hrest⟩ := h.exists_escape ht
    obtain ⟨piece, rest, rfl, hpiece, hrest⟩ := ih hrest htail
    exact ⟨'%' :: d :: e :: piece, rest, rfl, .cons hd he hpiece, hrest⟩

/-- A text that reads as a character and more begins with a way to write that character. -/
theorem Reads.exists_writes (h : Reads cs (encodeChar c ++ bs)) :
    ∃ piece rest, cs = piece ++ rest ∧ Writes c piece ∧ Reads rest bs := by
  generalize hbytes : encodeChar c ++ bs = bytes at h
  cases h with
  | nil => exact absurd (List.append_eq_nil_iff.1 hbytes).1 (Utf8.encodeChar_ne_nil c)
  | space hcs =>
    obtain ⟨rfl, rfl⟩ := Utf8.encodeChar_append_inj.1 (hbytes.trans (rfl : _ = encodeChar ' ' ++ _))
    exact ⟨['+'], _, rfl, .plus, hcs⟩
  | literal hc hplus hcs =>
    obtain ⟨rfl, rfl⟩ := Utf8.encodeChar_append_inj.1 hbytes
    exact ⟨[c], _, rfl, .literal hc hplus, hcs⟩
  | escape hh hl hcs =>
    -- The first byte is escaped, and so are the others, since they can be written in no other way.
    obtain ⟨b, tail, hc, -, htail⟩ := Utf8.encodeChar_eq_cons c
    rw [hc] at hbytes
    cases hbytes
    obtain ⟨piece, rest, rfl, hpiece, hrest⟩ := hcs.exists_escapes htail
    refine ⟨_ :: _ :: _ :: piece, rest, rfl, .escaped ?_, hrest⟩
    rw [hc]
    exact .cons hh hl hpiece

theorem spells_of_reads {name raw : List Char} (h : Reads raw (encodeChars name)) : Spells name raw := by
  induction name generalizing raw with
  | nil =>
    generalize hbytes : encodeChars [] = bytes at h
    cases h with
    | nil => exact .nil
    | space hcs => cases hbytes
    | escape hh hl hcs => cases hbytes
    | literal hc hplus hcs => exact absurd (List.append_eq_nil_iff.1 hbytes.symm).1 (Utf8.encodeChar_ne_nil _)
  | cons c name ih =>
    rw [Utf8.encodeChars_cons] at h
    obtain ⟨piece, rest, rfl, hpiece, hrest⟩ := h.exists_writes
    exact .cons hpiece (ih hrest)

/-- The texts that read as the UTF-8 of a text are the ways to write it. -/
theorem reads_encodeChars_iff {name raw : List Char} : Reads raw (encodeChars name) ↔ Spells name raw :=
  ⟨spells_of_reads, Spells.reads⟩

end DownloadGateway.Percent
