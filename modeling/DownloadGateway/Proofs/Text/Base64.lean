import DownloadGateway.Text.Base64
/-!
# Each byte string has one spelling in URL-safe base64

The reader and the writer are compared on lists of six-bit values, where a group is
arithmetic. `decode?_eq_some_iff` sums both directions up: what is read is exactly
what is written, so a lenient reader or a lossy writer would break it. Padded text in
the standard alphabet reads back as well.
-/

namespace DownloadGateway.Base64

/-! ## Six-bit values -/

/-- The six-bit values that stand for some bytes. -/
def sextets : Bytes → List Nat
  | [] => []
  | [x] => let n := x.toNat * 16; [n / 64, n % 64]
  | [x, y] => let n := (x.toNat * 256 + y.toNat) * 4; [n / 4096, n / 64 % 64, n % 64]
  | x :: y :: z :: rest =>
    let n := (x.toNat * 256 + y.toNat) * 256 + z.toNat
    n / 262144 :: n / 4096 % 64 :: n / 64 % 64 :: n % 64 :: sextets rest

/-- A text is written as digits, and the padding fills up the last group of four. -/
theorem encode_eq (a : Alphabet) (bs : Bytes) :
    encode a bs = (sextets bs).map a.digit ++ a.padding ((4 - (sextets bs).length % 4) % 4) := by
  fun_induction sextets bs with
  | case1 => cases a <;> rfl
  | case2 => rfl
  | case3 => rfl
  | case4 x y z rest n ih =>
    have hlength : ((sextets rest).length + 1 + 1 + 1 + 1) % 4 = (sextets rest).length % 4 := by omega
    simp only [encode, ih, List.map_cons, List.cons_append, List.length_cons, hlength, n]

theorem encodeUrl_eq_map (bs : Bytes) : encodeUrl bs = (sextets bs).map Alphabet.urlSafe.digit := by
  rw [encodeUrl, encode_eq, Alphabet.padding, List.append_nil]

theorem sextets_lt (bs : Bytes) : ∀ v ∈ sextets bs, v < 64 := by
  fun_induction sextets bs with
  | case1 => simp
  | case2 x n =>
    have := x.toNat_lt
    simp only [List.mem_cons, List.not_mem_nil, or_false]
    omega
  | case3 x y n =>
    have := x.toNat_lt
    have := y.toNat_lt
    simp only [List.mem_cons, List.not_mem_nil, or_false]
    omega
  | case4 x y z rest n ih =>
    have := x.toNat_lt
    have := y.toNat_lt
    have := z.toNat_lt
    intro v hv
    simp only [List.mem_cons] at hv
    rcases hv with h | h | h | h | h
    · omega
    · omega
    · omega
    · omega
    · exact ih v h

/-- A byte is what it is written as below 256. -/
theorem ofNat_eq_of_toNat {x : UInt8} {n : Nat} (h : n = x.toNat) : UInt8.ofNat n = x := by
  rw [h, UInt8.ofNat_toNat]

theorem decodeValues?_sextets (bs : Bytes) : decodeValues? (sextets bs) = some bs := by
  fun_induction sextets bs with
  | case1 => rfl
  | case2 x n =>
    have hx : UInt8.ofNat (n / 16) = x := ofNat_eq_of_toNat (by omega)
    have e : n / 64 * 64 + n % 64 = n := by omega
    have h16 : n % 16 = 0 := by omega
    simp only [decodeValues?, e, h16, if_true, hx]
  | case3 x y n =>
    have := y.toNat_lt
    have hx : UInt8.ofNat (n / 1024) = x := ofNat_eq_of_toNat (by omega)
    have hy : UInt8.ofNat (n / 4 % 256) = y := ofNat_eq_of_toNat (by omega)
    have e : (n / 4096 * 64 + n / 64 % 64) * 64 + n % 64 = n := by omega
    have h4 : n % 4 = 0 := by omega
    simp only [decodeValues?, e, h4, if_true, hx, hy]
  | case4 x y z rest n ih =>
    -- The three bytes are read off the number that the four values make up.
    have := y.toNat_lt
    have := z.toNat_lt
    have hx : UInt8.ofNat (n / 65536) = x := ofNat_eq_of_toNat (by omega)
    have hy : UInt8.ofNat (n / 256 % 256) = y := ofNat_eq_of_toNat (by omega)
    have hz : UInt8.ofNat (n % 256) = z := ofNat_eq_of_toNat (by omega)
    have e : ((n / 262144 * 64 + n / 4096 % 64) * 64 + n / 64 % 64) * 64 + n % 64 = n := by omega
    simp [decodeValues?, e, ih, hx, hy, hz]

/-- Reading refuses values with stray bits, so what it reads is written the same way again. -/
theorem eq_sextets_of_decodeValues? {vs : List Nat} {bs : Bytes} (hv : ∀ v ∈ vs, v < 64)
    (h : decodeValues? vs = some bs) : vs = sextets bs := by
  fun_induction decodeValues? vs generalizing bs with
  | case1 => simp_all [sextets]
  | case2 => cases h
  | case3 p q n =>
    simp only [List.mem_cons, List.not_mem_nil, or_false, forall_eq_or_imp, forall_eq] at hv
    cases h
    have e : (UInt8.ofNat (n / 16)).toNat = n / 16 := UInt8.toNat_ofNat_of_lt' (show n / 16 < 256 by omega)
    simp only [sextets, e, List.cons.injEq, and_true]
    omega
  | case4 => cases h -- stray bits below the one byte
  | case5 p q r n =>
    simp only [List.mem_cons, List.not_mem_nil, or_false, forall_eq_or_imp, forall_eq] at hv
    cases h
    have e : (UInt8.ofNat (n / 1024)).toNat = n / 1024 :=
      UInt8.toNat_ofNat_of_lt' (show n / 1024 < 256 by omega)
    have e' : (UInt8.ofNat (n / 4 % 256)).toNat = n / 4 % 256 :=
      UInt8.toNat_ofNat_of_lt' (show n / 4 % 256 < 256 by omega)
    simp only [sextets, e, e', List.cons.injEq, and_true]
    omega
  | case6 => cases h -- stray bits below the two bytes
  | case7 p q r s rest n =>
    rename_i ih
    obtain ⟨more, hm, rfl⟩ := Option.map_eq_some_iff.1 h
    have ih := ih (fun v h => hv v (by simp [h])) hm
    simp only [List.mem_cons, forall_eq_or_imp] at hv
    have e : (UInt8.ofNat (n / 65536)).toNat = n / 65536 :=
      UInt8.toNat_ofNat_of_lt' (show n / 65536 < 256 by omega)
    have e' : (UInt8.ofNat (n / 256 % 256)).toNat = n / 256 % 256 :=
      UInt8.toNat_ofNat_of_lt' (show n / 256 % 256 < 256 by omega)
    have e'' : (UInt8.ofNat (n % 256)).toNat = n % 256 :=
      UInt8.toNat_ofNat_of_lt' (show n % 256 < 256 by omega)
    simp only [List.cons_append, List.nil_append, sextets, e, e', e'', List.cons.injEq]
    exact ⟨by omega, by omega, by omega, by omega, ih⟩

/-! ## Characters -/

theorem value?_digit (a : Alphabet) : ∀ n < 64, a.value? (a.digit n) = some n := by
  cases a <;> decide +kernel

theorem eq_digit_of_value? {c : Char} {n : Nat} (h : Alphabet.urlSafe.value? c = some n) :
    n < 64 ∧ c = Alphabet.urlSafe.digit n := by
  have hc : Char.ofNat c.toNat = c := Char.ofNat_toNat c
  simp only [Alphabet.value?] at h
  split at h
  · cases h
    refine ⟨by omega, ?_⟩
    rw [Alphabet.digit, if_pos (by omega), show c.toNat - 65 + 65 = c.toNat by omega, hc]
  split at h
  · cases h
    refine ⟨by omega, ?_⟩
    rw [Alphabet.digit, if_neg (by omega), if_pos (by omega),
      show c.toNat - 71 + 71 = c.toNat by omega, hc]
  split at h
  · cases h
    refine ⟨by omega, ?_⟩
    rw [Alphabet.digit, if_neg (by omega), if_neg (by omega), if_pos (by omega),
      show c.toNat + 4 - 4 = c.toNat by omega, hc]
  split at h
  · cases h; exact ⟨by omega, ‹_›⟩
  split at h
  · cases h; exact ⟨by omega, ‹_›⟩
  · cases h

theorem mapM_value?_digits (a : Alphabet) {vs : List Nat} (hv : ∀ v ∈ vs, v < 64) :
    (vs.map a.digit).mapM a.value? = some vs := by
  induction vs with
  | nil => rfl
  | cons v vs ih =>
    rw [List.map_cons, List.mapM_cons, value?_digit a v (hv v (by simp)),
      ih (fun w h => hv w (by simp [h]))]
    rfl

theorem of_mapM_value? {cs : List Char} {vs : List Nat}
    (h : cs.mapM Alphabet.urlSafe.value? = some vs) :
    (∀ v ∈ vs, v < 64) ∧ cs = vs.map Alphabet.urlSafe.digit := by
  induction cs generalizing vs with
  | nil => simp_all
  | cons c cs ih =>
    simp only [List.mapM_cons, Option.bind_eq_bind, Option.bind_eq_some_iff] at h
    obtain ⟨v, hv, ws, hws, e⟩ := h
    obtain ⟨hlt, rfl⟩ := eq_digit_of_value? hv
    obtain ⟨hlts, rfl⟩ := ih hws
    cases e
    exact ⟨by simpa using ⟨hlt, hlts⟩, rfl⟩

/-! ## The round trip -/

/-- A text reads as some bytes exactly if it is what they are written as. -/
theorem decode?_eq_some_iff {cs : List Char} {bs : Bytes} :
    decode? cs = some bs ↔ cs = encodeUrl bs := by
  rw [decode?, Option.bind_eq_some_iff, encodeUrl_eq_map]
  constructor
  · rintro ⟨vs, hvs, hbs⟩
    obtain ⟨hlt, rfl⟩ := of_mapM_value? hvs
    rw [eq_sextets_of_decodeValues? hlt hbs]
  · rintro rfl
    exact ⟨_, mapM_value?_digits _ (sextets_lt bs), decodeValues?_sextets bs⟩

@[simp] theorem decode?_encodeUrl (bs : Bytes) : decode? (encodeUrl bs) = some bs :=
  decode?_eq_some_iff.2 rfl

theorem encodeUrl_inj {bs bs' : Bytes} : encodeUrl bs = encodeUrl bs' ↔ bs = bs' := by
  constructor
  · intro h
    simpa using congrArg decode? h
  · rintro rfl
    rfl

/-- Letters, digits, `-` and `_` make up every written text. -/
def isUrlChar (c : Char) : Bool := c.isAlphanum || c == '-' || c == '_'

theorem isUrlChar_digit : ∀ n < 64, isUrlChar (Alphabet.urlSafe.digit n) = true := by
  decide +kernel

theorem isUrlChar_of_mem {bs : Bytes} {c : Char} (h : c ∈ encodeUrl bs) : isUrlChar c = true := by
  rw [encodeUrl_eq_map] at h
  obtain ⟨v, hv, rfl⟩ := List.mem_map.1 h
  exact isUrlChar_digit v (sextets_lt bs v hv)

theorem not_mem_encodeUrl {c : Char} (hc : isUrlChar c = false) (bs : Bytes) : c ∉ encodeUrl bs := by
  intro h
  rw [isUrlChar_of_mem h] at hc
  cases hc

/-! ## Padded text -/

/-- Each three bytes make four characters, and so does what is left over. -/
theorem length_encode_standard (bs : Bytes) : (encode .standard bs).length = (bs.length + 2) / 3 * 4 := by
  fun_induction encode .standard bs with
  | case1 => rfl
  | case2 => simp [Alphabet.padding]
  | case3 => simp [Alphabet.padding]
  | case4 x y z rest n ih =>
    simp only [List.length_cons, ih]
    omega

/-- Reads padded text in the standard alphabet: digits, and behind them the padding that fills up
the last group of four. -/
def decodePadded? (cs : List Char) : Option Bytes :=
  let digits := cs.takeWhile (· ≠ '=')
  if cs = digits ++ Alphabet.standard.padding ((4 - digits.length % 4) % 4) then
    (digits.mapM Alphabet.standard.value?).bind decodeValues?
  else none

theorem digit_ne_padding : ∀ n < 64, Alphabet.standard.digit n ≠ '=' := by
  decide +kernel

theorem takeWhile_encode_standard (bs : Bytes) :
    (encode .standard bs).takeWhile (· ≠ '=') = (sextets bs).map Alphabet.standard.digit := by
  have hdigits : ∀ c ∈ (sextets bs).map Alphabet.standard.digit, decide (c ≠ '=') = true := by
    intro c hc
    obtain ⟨v, hv, rfl⟩ := List.mem_map.1 hc
    exact decide_eq_true (digit_ne_padding v (sextets_lt bs v hv))
  rw [encode_eq, List.takeWhile_append_of_pos hdigits, Alphabet.padding, List.takeWhile_replicate]
  simp

@[simp] theorem decodePadded?_encode (bs : Bytes) : decodePadded? (encode .standard bs) = some bs := by
  rw [decodePadded?, takeWhile_encode_standard, List.length_map, ← encode_eq, if_pos rfl,
    mapM_value?_digits _ (sextets_lt bs), Option.bind_some, decodeValues?_sextets]

end DownloadGateway.Base64
