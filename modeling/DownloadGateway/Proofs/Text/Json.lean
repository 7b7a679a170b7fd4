import DownloadGateway.Proofs.Text.Utf8
import DownloadGateway.Text.Json
/-!
# Strings in JSON

A string that was quoted is read back, whatever it holds and whatever follows it: each
character is read off the front as it was escaped.
-/

namespace DownloadGateway.Json

variable {b : UInt8} {rest : Bytes}

/-! ## One piece of a string -/

/-- A string with some bytes in front of its content. -/
def withFront (front : Bytes) (read : Option (Bytes × Bytes)) : Option (Bytes × Bytes) :=
  read.map fun (bs, tail) => (front ++ bs, tail)

theorem withFront_append (front front' : Bytes) (read : Option (Bytes × Bytes)) :
    withFront (front ++ front') read = withFront front (withFront front' read) := by
  cases read <;> simp [withFront]

/-- A byte that stands for itself in a string. -/
def IsPlain (b : UInt8) : Prop := b ≠ 0x22 ∧ b ≠ 0x5C ∧ 0x20 ≤ b.toNat

theorem stringBytes?_plain (h : IsPlain b) (rest : Bytes) :
    stringBytes? (b :: rest) = withFront [b] (stringBytes? rest) := by
  obtain ⟨hquote, hmark, hle⟩ := h
  rw [stringBytes?, if_neg (Nat.not_lt.2 hle)]
  · rfl
  -- The byte opens none of the other kinds of piece.
  · exact hquote
  · exact fun _ _ _ _ _ hb => absurd hb hmark
  · exact fun _ _ hb => absurd hb hmark

theorem stringBytes?_plains {bs : Bytes} (h : ∀ b ∈ bs, IsPlain b) (rest : Bytes) :
    stringBytes? (bs ++ rest) = withFront bs (stringBytes? rest) := by
  induction bs with
  | nil => cases hr : stringBytes? rest <;> simp [withFront, hr]
  | cons b bs ih =>
    obtain ⟨hb, hbs⟩ := List.forall_mem_cons.1 h
    rw [List.cons_append, stringBytes?_plain hb, ih hbs, ← withFront_append, List.singleton_append]

theorem stringBytes?_escape {e : UInt8} (h : escape? b = some e) (rest : Bytes) :
    stringBytes? (0x5C :: b :: rest) = withFront [e] (stringBytes? rest) := by
  have hu : b ≠ 0x75 := by
    rintro rfl
    simp [escape?] at h
  rw [stringBytes?, h]
  · rfl
  · intro _ _ _ _ _ hb
    exact absurd hb hu

/-- The two digits of a control character. -/
theorem unit?_hexDigit : ∀ n < 0x20,
    unit? 0x30 0x30 (.ofNat (hexDigit (n / 16)).toNat) (.ofNat (hexDigit (n % 16)).toNat) = some n := by
  decide

theorem stringBytes?_unit {a b c d : UInt8} {n : Nat} (h : unit? a b c d = some n) (hhigh : ¬(0xD800 ≤ n ∧ n < 0xDC00))
    (hlow : ¬(0xDC00 ≤ n ∧ n < 0xE000)) (rest : Bytes) :
    stringBytes? (0x5C :: 0x75 :: a :: b :: c :: d :: rest) =
      withFront (Utf8.encodeChar (Char.ofNat n)) (stringBytes? rest) := by
  rw [stringBytes?, h]
  dsimp only
  rw [if_neg hhigh, if_neg hlow]
  rfl

/-- The bytes of a character that is not ASCII stand for themselves. -/
theorem isPlain_of_mem_encodeChar {c : Char} (hc : 0x80 ≤ c.toNat) (hb : b ∈ Utf8.encodeChar c) : IsPlain b := by
  have hle : 0x80 ≤ b.toNat := by
    have := Utf8.valid_toNat c
    unfold Utf8.encodeChar at hb
    dsimp only at hb
    rw [if_neg (Nat.not_lt.2 hc)] at hb
    repeat' split at hb
    all_goals
      simp only [List.mem_cons, List.not_mem_nil, or_false] at hb
      rcases hb with rfl | rfl | rfl | rfl <;> rw [UInt8.toNat_ofNat'] <;> omega
  refine ⟨?_, ?_, by omega⟩
  all_goals
    rintro rfl
    revert hle
    decide

theorem isPlain_of_ascii {c : Char} (hle : 0x20 ≤ c.toNat) (hlt : c.toNat < 0x80) (hquote : c ≠ '"')
    (hmark : c ≠ '\\') : IsPlain (.ofNat c.toNat) := by
  have hb : (UInt8.ofNat c.toNat).toNat = c.toNat := UInt8.toNat_ofNat_of_lt' (show c.toNat < 256 by omega)
  refine ⟨fun h => hquote ?_, fun h => hmark ?_, by omega⟩
  all_goals
    rw [h] at hb
    exact Char.toNat_inj.1 hb.symm

theorem hexDigit_toNat_lt : ∀ n < 16, (hexDigit n).toNat < 0x80 := by decide

/-- A character is read back as it was escaped. -/
theorem stringBytes?_escapeChar (c : Char) (rest : Bytes) :
    stringBytes? (Utf8.encodeChars (escapeChar c) ++ rest) = withFront (Utf8.encodeChar c) (stringBytes? rest) := by
  -- An escape of one letter, for a character that the letter stands for.
  have letter : ∀ {n : Nat} {b : UInt8}, c.toNat = n → n < 0x80 → escape? b = some (.ofNat n) →
      stringBytes? (0x5C :: b :: rest) = withFront (Utf8.encodeChar c) (stringBytes? rest) := by
    intro n b hn hlt he
    rw [stringBytes?_escape he, Utf8.encodeChar_of_lt (hn ▸ hlt), hn]
  unfold escapeChar
  split
  · rename_i h
    exact letter (congrArg Char.toNat h) (by decide) rfl
  split
  · rename_i h
    exact letter (congrArg Char.toNat h) (by decide) rfl
  split
  · exact letter ‹_› (by decide) rfl
  split
  · exact letter ‹_› (by decide) rfl
  split
  · exact letter ‹_› (by decide) rfl
  split
  · exact letter ‹_› (by decide) rfl
  split
  · exact letter ‹_› (by decide) rfl
  split
  · rename_i hlt
    have hbytes : ∀ n < 16, Utf8.encodeChar (hexDigit n) = [.ofNat (hexDigit n).toNat] := fun n hn =>
      Utf8.encodeChar_of_lt (hexDigit_toNat_lt n hn)
    have hunit := stringBytes?_unit (unit?_hexDigit c.toNat hlt) (by omega) (by omega) rest
    rw [Char.ofNat_toNat] at hunit
    rw [← hunit]
    simp only [Utf8.encodeChars_cons, Utf8.encodeChars_nil, hbytes _ (show c.toNat / 16 < 16 by omega),
      hbytes _ (Nat.mod_lt _ (show 0 < 16 by omega)), List.append_nil]
    rfl
  · rename_i hquote hmark _ _ _ _ _ hle
    rw [Utf8.encodeChars_cons, Utf8.encodeChars_nil, List.append_nil]
    refine stringBytes?_plains (fun b hb => ?_) rest
    by_cases hlt : c.toNat < 0x80
    · rw [Utf8.encodeChar_of_lt hlt, List.mem_singleton] at hb
      rw [hb]
      exact isPlain_of_ascii (by omega) hlt hquote hmark
    · exact isPlain_of_mem_encodeChar (by omega) hb

/-! ## A whole string -/

theorem stringBytes?_quoted (cs : List Char) (rest : Bytes) :
    stringBytes? (Utf8.encodeChars (cs.flatMap escapeChar) ++ 0x22 :: rest) = some (Utf8.encodeChars cs, rest) := by
  induction cs with
  | nil => rfl
  | cons c cs ih =>
    rw [List.flatMap_cons, Utf8.encodeChars_append, List.append_assoc, stringBytes?_escapeChar, ih]
    rfl

/-- A quoted text is read back, behind its opening quote, and what follows is left. -/
theorem string?_quoted (text : String) (rest : Bytes) :
    string? (Utf8.encodeChars (text.toList.flatMap escapeChar) ++ 0x22 :: rest) = some (text, rest) := by
  have hdecode : Utf8.decode? (Utf8.encodeChars text.toList) = some text := Utf8.decode?_encode text
  rw [string?, stringBytes?_quoted]
  simp only [Option.bind_eq_bind, Option.bind_some, hdecode]

/-! ## More behind it

What was read off the front of some bytes is read off the front of more. -/

variable {bs content : Bytes}

end DownloadGateway.Json
