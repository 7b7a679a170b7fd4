import DownloadGateway.Text.Utf8
/-!
# UTF-8 reads back exactly what it writes

Everything follows from `front_eq_char_iff`: a character stands at the front of a byte
string exactly if the string begins with the bytes of that character. So no overlong
form, no surrogate and no value above U+10FFFF is read as a character.
-/

namespace DownloadGateway.Utf8

/-! ## Lead bytes -/

theorem front_of_lt {b : UInt8} (bs : Bytes) (h : b.toNat < 0x80) :
    front b bs = .char (Char.ofNat b.toNat) bs := by
  simp only [front, if_pos h]

theorem front_two {b : UInt8} (bs : Bytes) (h : 0xC2 ≤ b.toNat ∧ b.toNat < 0xE0) :
    front b bs = continuation 1 (b.toNat - 0xC0) 1 0x80 0xBF bs := by
  simp only [front]
  rw [if_neg (by omega), if_neg (by omega), if_pos (by omega)]

/-- Behind `E0` an overlong form could begin, behind `ED` a surrogate. -/
theorem front_three {b : UInt8} (bs : Bytes) (h : 0xE0 ≤ b.toNat ∧ b.toNat < 0xF0) :
    front b bs = continuation 1 (b.toNat - 0xE0) 2 (if b.toNat = 0xE0 then 0xA0 else 0x80)
      (if b.toNat = 0xED then 0x9F else 0xBF) bs := by
  simp only [front]
  rw [if_neg (by omega), if_neg (by omega), if_neg (by omega)]
  by_cases h0 : b.toNat = 0xE0
  · simp [h0]
  by_cases hD : b.toNat = 0xED
  · simp [hD]
  · rw [if_neg h0, if_neg hD, if_pos (by omega), if_neg h0, if_neg hD]

/-- Behind `F0` an overlong form could begin, behind `F4` a value above U+10FFFF. -/
theorem front_four {b : UInt8} (bs : Bytes) (h : 0xF0 ≤ b.toNat ∧ b.toNat ≤ 0xF4) :
    front b bs = continuation 1 (b.toNat - 0xF0) 3 (if b.toNat = 0xF0 then 0x90 else 0x80)
      (if b.toNat = 0xF4 then 0x8F else 0xBF) bs := by
  simp only [front]
  rw [if_neg (by omega), if_neg (by omega), if_neg (by omega), if_neg (by omega),
    if_neg (by omega), if_neg (by omega)]
  by_cases h0 : b.toNat = 0xF0
  · simp [h0]
  by_cases h4 : b.toNat = 0xF4
  · simp [h4]
  · rw [if_neg h0, if_pos (by omega), if_neg h0, if_neg h4]

/-- The bytes that lead no character. -/
theorem front_invalid {b : UInt8} (bs : Bytes)
    (h : (0x80 ≤ b.toNat ∧ b.toNat < 0xC2) ∨ 0xF4 < b.toNat) : front b bs = .invalid 1 bs := by
  simp only [front]
  rw [if_neg (by omega)]
  rcases h with h | h
  · rw [if_pos (by omega)]
  · rw [if_neg (by omega), if_neg (by omega), if_neg (by omega), if_neg (by omega),
      if_neg (by omega), if_neg (by omega), if_neg (by omega), if_neg (by omega)]

/-! ## Continuation bytes -/

theorem continuation_zero_eq_char_iff {taken value lo hi : Nat} {bs rest : Bytes} {c : Char} :
    continuation taken value 0 lo hi bs = .char c rest ↔ c = Char.ofNat value ∧ bs = rest := by
  rw [continuation, Front.char.injEq, eq_comm]

theorem continuation_succ_eq_char_iff {taken value need lo hi : Nat} {bs rest : Bytes} {c : Char} :
    continuation taken value (need + 1) lo hi bs = .char c rest ↔
      ∃ b more, bs = b :: more ∧ (lo ≤ b.toNat ∧ b.toNat ≤ hi) ∧
        continuation (taken + 1) (value * 0x40 + (b.toNat - 0x80)) need 0x80 0xBF more =
          .char c rest := by
  cases bs with
  | nil => simp [continuation]
  | cons b more =>
    rw [continuation]
    split
    · rename_i hb
      constructor
      · exact fun h => ⟨b, more, rfl, hb, h⟩
      · rintro ⟨_, _, ⟨⟩, -, h⟩
        exact h
    · rename_i hb
      constructor
      · intro h
        cases h
      · rintro ⟨_, _, ⟨⟩, hb', -⟩
        exact absurd hb' hb

/-! ## Values of characters -/

theorem valid_toNat (c : Char) : c.toNat < 0xD800 ∨ 0xDFFF < c.toNat ∧ c.toNat < 0x110000 :=
  c.valid

theorem toNat_ofNat_of_valid {n : Nat} (h : n < 0xD800 ∨ 0xDFFF < n ∧ n < 0x110000) :
    (Char.ofNat n).toNat = n := by
  rw [Char.ofNat, dif_pos h]
  rfl

theorem encodeChar_ofNat {n : Nat} (h : n < 0xD800 ∨ 0xDFFF < n ∧ n < 0x110000) :
    encodeChar (Char.ofNat n) =
      if n < 0x80 then [.ofNat n]
      else if n < 0x800 then [.ofNat (0xC0 + n / 0x40), .ofNat (0x80 + n % 0x40)]
      else if n < 0x10000 then
        [.ofNat (0xE0 + n / 0x1000), .ofNat (0x80 + n / 0x40 % 0x40), .ofNat (0x80 + n % 0x40)]
      else
        [.ofNat (0xF0 + n / 0x40000), .ofNat (0x80 + n / 0x1000 % 0x40),
          .ofNat (0x80 + n / 0x40 % 0x40), .ofNat (0x80 + n % 0x40)] := by
  rw [encodeChar, toNat_ofNat_of_valid h]

theorem byte_eq_iff {b : UInt8} {n : Nat} (h : n < 256) : b = .ofNat n ↔ b.toNat = n := by
  rw [← UInt8.toNat_inj, UInt8.toNat_ofNat', Nat.mod_eq_of_lt h]

/-! ## One character -/

/-- A written character stands at the front. -/
theorem front_of_eq_append {b : UInt8} {bs rest : Bytes} {c : Char}
    (h : b :: bs = encodeChar c ++ rest) : front b bs = .char c rest := by
  have hv := valid_toNat c
  -- From here on it is arithmetic on the value, one case for each number of bytes.
  rw [← Char.ofNat_toNat c] at h ⊢
  generalize c.toNat = n at hv h ⊢
  rw [encodeChar_ofNat hv] at h
  split at h
  · obtain ⟨hb, rfl⟩ := List.cons.inj h
    rw [byte_eq_iff (by omega)] at hb
    rw [front_of_lt _ (by omega), hb]
  split at h
  · obtain ⟨hb, rfl⟩ := List.cons.inj h
    rw [byte_eq_iff (by omega)] at hb
    rw [front_two _ (by omega), continuation_succ_eq_char_iff]
    refine ⟨_, _, rfl, ?_, continuation_zero_eq_char_iff.2 ⟨?_, rfl⟩⟩
    · rw [UInt8.toNat_ofNat']; omega
    · rw [UInt8.toNat_ofNat', hb]
      exact congrArg Char.ofNat (by omega)
  split at h
  · obtain ⟨hb, rfl⟩ := List.cons.inj h
    rw [byte_eq_iff (by omega)] at hb
    rw [front_three _ (by omega), continuation_succ_eq_char_iff]
    refine ⟨_, _, rfl, ?_, continuation_succ_eq_char_iff.2 ⟨_, _, rfl, ?_,
      continuation_zero_eq_char_iff.2 ⟨?_, rfl⟩⟩⟩
    · rw [UInt8.toNat_ofNat']; split <;> split <;> omega
    · rw [UInt8.toNat_ofNat']; omega
    · rw [UInt8.toNat_ofNat', UInt8.toNat_ofNat', hb]
      exact congrArg Char.ofNat (by omega)
  · obtain ⟨hb, rfl⟩ := List.cons.inj h
    rw [byte_eq_iff (by omega)] at hb
    rw [front_four _ (by omega), continuation_succ_eq_char_iff]
    refine ⟨_, _, rfl, ?_, continuation_succ_eq_char_iff.2 ⟨_, _, rfl, ?_,
      continuation_succ_eq_char_iff.2 ⟨_, _, rfl, ?_,
        continuation_zero_eq_char_iff.2 ⟨?_, rfl⟩⟩⟩⟩
    · rw [UInt8.toNat_ofNat']; split <;> split <;> omega
    · rw [UInt8.toNat_ofNat']; omega
    · rw [UInt8.toNat_ofNat']; omega
    · rw [UInt8.toNat_ofNat', UInt8.toNat_ofNat', UInt8.toNat_ofNat', hb]
      exact congrArg Char.ofNat (by omega)

/-- Nothing but a written character stands at the front. -/
theorem eq_append_of_front {b : UInt8} {bs rest : Bytes} {c : Char}
    (h : front b bs = .char c rest) : b :: bs = encodeChar c ++ rest := by
  have hb := b.toNat_lt
  by_cases h1 : b.toNat < 0x80
  · rw [front_of_lt bs h1] at h
    cases h
    rw [encodeChar_ofNat (by omega), if_pos h1, UInt8.ofNat_toNat]
    rfl
  by_cases hi : b.toNat < 0xC2 ∨ 0xF4 < b.toNat
  · rw [front_invalid bs (by omega)] at h
    cases h
  by_cases h2 : b.toNat < 0xE0
  · rw [front_two bs (by omega), continuation_succ_eq_char_iff] at h
    obtain ⟨x, _, rfl, hx, h⟩ := h
    obtain ⟨hc, rfl⟩ := continuation_zero_eq_char_iff.1 h
    rw [hc, encodeChar_ofNat (by omega), if_neg (by omega), if_pos (by omega)]
    simp only [List.cons_append, List.nil_append, List.cons.injEq, and_true]
    exact ⟨(byte_eq_iff (by omega)).2 (by omega), (byte_eq_iff (by omega)).2 (by omega)⟩
  by_cases h3 : b.toNat < 0xF0
  · rw [front_three bs (by omega), continuation_succ_eq_char_iff] at h
    obtain ⟨x, _, rfl, hx, h⟩ := h
    obtain ⟨y, _, rfl, hy, h⟩ := continuation_succ_eq_char_iff.1 h
    obtain ⟨hc, rfl⟩ := continuation_zero_eq_char_iff.1 h
    -- The second byte is what rules out overlong forms and surrogates.
    have hn : 0x80 ≤ x.toNat ∧ x.toNat ≤ 0xBF ∧ (b.toNat = 0xE0 → 0xA0 ≤ x.toNat) ∧
        (b.toNat = 0xED → x.toNat ≤ 0x9F) := by
      split at hx <;> split at hx <;> omega
    rw [hc, encodeChar_ofNat (by omega), if_neg (by omega), if_neg (by omega), if_pos (by omega)]
    simp only [List.cons_append, List.nil_append, List.cons.injEq, and_true]
    exact ⟨(byte_eq_iff (by omega)).2 (by omega), (byte_eq_iff (by omega)).2 (by omega),
      (byte_eq_iff (by omega)).2 (by omega)⟩
  · rw [front_four bs (by omega), continuation_succ_eq_char_iff] at h
    obtain ⟨x, _, rfl, hx, h⟩ := h
    obtain ⟨y, _, rfl, hy, h⟩ := continuation_succ_eq_char_iff.1 h
    obtain ⟨z, _, rfl, hz, h⟩ := continuation_succ_eq_char_iff.1 h
    obtain ⟨hc, rfl⟩ := continuation_zero_eq_char_iff.1 h
    -- Here it rules out overlong forms and values that are too large.
    have hn : 0x80 ≤ x.toNat ∧ x.toNat ≤ 0xBF ∧ (b.toNat = 0xF0 → 0x90 ≤ x.toNat) ∧
        (b.toNat = 0xF4 → x.toNat ≤ 0x8F) := by
      split at hx <;> split at hx <;> omega
    rw [hc, encodeChar_ofNat (by omega), if_neg (by omega), if_neg (by omega), if_neg (by omega)]
    simp only [List.cons_append, List.nil_append, List.cons.injEq, and_true]
    exact ⟨(byte_eq_iff (by omega)).2 (by omega), (byte_eq_iff (by omega)).2 (by omega),
      (byte_eq_iff (by omega)).2 (by omega), (byte_eq_iff (by omega)).2 (by omega)⟩

/-- A character stands at the front exactly if its bytes do. -/
theorem front_eq_char_iff {b : UInt8} {bs rest : Bytes} {c : Char} :
    front b bs = .char c rest ↔ b :: bs = encodeChar c ++ rest :=
  ⟨eq_append_of_front, front_of_eq_append⟩

theorem encodeChar_ne_nil (c : Char) : encodeChar c ≠ [] := by
  unfold encodeChar
  dsimp only
  repeat' split
  all_goals simp

theorem encodeChar_of_lt {c : Char} (h : c.toNat < 0x80) : encodeChar c = [.ofNat c.toNat] := by
  simp [encodeChar, h]

theorem ge_of_mem_encodeChar {c : Char} (h : 0x80 ≤ c.toNat) {b : UInt8} (hb : b ∈ encodeChar c) :
    0x80 ≤ b.toNat := by
  have hv := valid_toNat c
  unfold encodeChar at hb
  dsimp only at hb
  rw [if_neg (by omega)] at hb
  split at hb
  · simp only [List.mem_cons, List.not_mem_nil, or_false] at hb
    rcases hb with rfl | rfl <;> rw [UInt8.toNat_ofNat'] <;> omega
  split at hb
  · simp only [List.mem_cons, List.not_mem_nil, or_false] at hb
    rcases hb with rfl | rfl | rfl <;> rw [UInt8.toNat_ofNat'] <;> omega
  · simp only [List.mem_cons, List.not_mem_nil, or_false] at hb
    rcases hb with rfl | rfl | rfl | rfl <;> rw [UInt8.toNat_ofNat'] <;> omega

/-- The bytes that stand inside a character only, never at its start. -/
def IsContinuation (b : UInt8) : Prop := 0x80 ≤ b.toNat ∧ b.toNat < 0xC0

theorem isContinuation_ofNat_iff {n : Nat} (h : n < 256) :
    IsContinuation (.ofNat n) ↔ 0x80 ≤ n ∧ n < 0xC0 := by
  rw [IsContinuation, UInt8.toNat_ofNat', Nat.mod_eq_of_lt h]

/-- A character is a byte that starts it, and continuation bytes behind. -/
theorem encodeChar_eq_cons (c : Char) :
    ∃ b tail, encodeChar c = b :: tail ∧ ¬IsContinuation b ∧ ∀ t ∈ tail, IsContinuation t := by
  have hv := valid_toNat c
  have hlead (n : Nat) (h : n < 0x80 ∨ 0xC0 ≤ n ∧ n < 256) : ¬IsContinuation (.ofNat n) := by
    rw [isContinuation_ofNat_iff (by omega)]
    omega
  have hlow (n : Nat) : IsContinuation (.ofNat (0x80 + n % 0x40)) := by
    rw [isContinuation_ofNat_iff (by omega)]
    omega
  unfold encodeChar
  dsimp only
  split
  · exact ⟨_, _, rfl, hlead _ (by omega), List.forall_mem_nil _⟩
  split
  · exact ⟨_, _, rfl, hlead _ (by omega), List.forall_mem_singleton.2 (hlow _)⟩
  split
  · exact ⟨_, _, rfl, hlead _ (by omega), List.forall_mem_cons.2 ⟨hlow _, List.forall_mem_singleton.2 (hlow _)⟩⟩
  · exact ⟨_, _, rfl, hlead _ (by omega), List.forall_mem_cons.2 ⟨hlow _, List.forall_mem_cons.2
      ⟨hlow _, List.forall_mem_singleton.2 (hlow _)⟩⟩⟩

theorem length_encodeChar_le (c : Char) : (encodeChar c).length ≤ 4 := by
  unfold encodeChar
  dsimp only
  repeat' split
  all_goals simp

/-- The bytes of a character say where it ends. -/
theorem encodeChar_append_inj {c d : Char} {bs rest : Bytes} :
    encodeChar c ++ bs = encodeChar d ++ rest ↔ c = d ∧ bs = rest := by
  constructor
  · intro h
    obtain ⟨b, tail, hc, -⟩ := encodeChar_eq_cons c
    have hfront : front b (tail ++ bs) = .char c bs := front_of_eq_append (by rw [hc]; rfl)
    rw [show front b (tail ++ bs) = .char d rest from front_of_eq_append (by rw [← h, hc]; rfl)] at hfront
    cases hfront
    exact ⟨rfl, rfl⟩
  · rintro ⟨rfl, rfl⟩
    rfl

/-! ## Texts -/

@[simp] theorem encodeChars_nil : encodeChars [] = [] := rfl

@[simp] theorem encodeChars_cons (c : Char) (cs : List Char) :
    encodeChars (c :: cs) = encodeChar c ++ encodeChars cs := List.flatMap_cons

theorem encodeChars_append (cs cs' : List Char) : encodeChars (cs ++ cs') = encodeChars cs ++ encodeChars cs' :=
  List.flatMap_append

theorem encodeChars_flatten (pieces : List (List Char)) :
    encodeChars pieces.flatten = (pieces.map encodeChars).flatten := by
  induction pieces with
  | nil => rfl
  | cons piece pieces ih => rw [List.flatten_cons, encodeChars_append, ih, List.map_cons, List.flatten_cons]

/-- An ASCII text is as many bytes as characters. -/
theorem length_encodeChars_of_ascii {cs : List Char} (h : ∀ c ∈ cs, c.toNat < 0x80) :
    (encodeChars cs).length = cs.length := by
  induction cs with
  | nil => rfl
  | cons c cs ih =>
    obtain ⟨hc, hcs⟩ := List.forall_mem_cons.1 h
    rw [encodeChars_cons, encodeChar_of_lt hc, List.length_append, ih hcs, List.length_singleton, List.length_cons,
      Nat.add_comm]

/-- What is left to read begins with the bytes of the first character. -/
theorem exists_front (c : Char) (cs : List Char) :
    ∃ b bs, encodeChars (c :: cs) = b :: bs ∧ front b bs = .char c (encodeChars cs) := by
  cases h : encodeChars (c :: cs) with
  | nil => simp [encodeChar_ne_nil] at h
  | cons b bs => exact ⟨b, bs, rfl, front_of_eq_append (by rw [← h, encodeChars_cons])⟩

theorem eq_encodeChars_of_decodeFrom {pos : Nat} {bs : Bytes} {cs : List Char}
    (h : decodeFrom pos bs = .ok cs) : bs = encodeChars cs := by
  fun_induction decodeFrom pos bs generalizing cs with
  | case1 => cases h; rfl
  | case2 pos b bs c rest hf _ ih =>
    cases hr : decodeFrom (pos + (encodeChar c).length) rest with
    | error e => rw [hr] at h; cases h
    | ok cs' =>
      rw [hr] at h
      cases h
      rw [encodeChars_cons, ← ih hr]
      exact eq_append_of_front hf
  | case3 => cases h
  | case4 => cases h

theorem decodeFrom_encodeChars (pos : Nat) (cs : List Char) :
    decodeFrom pos (encodeChars cs) = .ok cs := by
  induction cs generalizing pos with
  | nil => rw [encodeChars_nil, decodeFrom]
  | cons c cs ih =>
    obtain ⟨b, bs, hb, hf⟩ := exists_front c cs
    rw [hb, decodeFrom]
    split
    · rename_i hf'
      cases hf.symm.trans hf'
      rw [ih]
      rfl
    · rename_i hf'
      cases hf.symm.trans hf'
    · rename_i hf'
      cases hf.symm.trans hf'

/-- Bytes read as a text exactly if they are the bytes of that text. -/
theorem decode_eq_ok_iff {bs : Bytes} {s : String} : decode bs = .ok s ↔ bs = encode s := by
  unfold decode decodeChars encode
  constructor
  · intro h
    cases hd : decodeFrom 0 bs with
    | error e => rw [hd] at h; cases h
    | ok cs =>
      rw [hd] at h
      cases h
      rw [String.toList_ofList]
      exact eq_encodeChars_of_decodeFrom hd
  · rintro rfl
    rw [decodeFrom_encodeChars]
    exact congrArg Except.ok String.ofList_toList

theorem decode?_eq_some_iff {bs : Bytes} {s : String} : decode? bs = some s ↔ bs = encode s := by
  rw [← decode_eq_ok_iff, decode?]
  cases decode bs <;> simp [Except.toOption]

@[simp] theorem decode?_encode (s : String) : decode? (encode s) = some s :=
  decode?_eq_some_iff.2 rfl

theorem encode_inj {s s' : String} : encode s = encode s' ↔ s = s' := by
  constructor
  · intro h
    simpa using congrArg decode? h
  · rintro rfl
    rfl

theorem decodeLossyChars_encodeChars (cs : List Char) : decodeLossyChars (encodeChars cs) = cs := by
  induction cs with
  | nil => rw [encodeChars_nil, decodeLossyChars]
  | cons c cs ih =>
    obtain ⟨b, bs, hb, hf⟩ := exists_front c cs
    rw [hb, decodeLossyChars]
    split
    · rename_i hf'
      cases hf.symm.trans hf'
      rw [ih]
    · rename_i hf'
      cases hf.symm.trans hf'
    · rename_i hf'
      cases hf.symm.trans hf'

end DownloadGateway.Utf8
