import DownloadGateway.Text.Decimal
/-!
# The shortest way to write a number

A number may be read from several texts: signs and leading zeros are accepted.
`eq_print_iff_of_read?` says which one of them is printed.
-/

namespace DownloadGateway.Decimal

/-- No sign, and no leading zero in front of another digit. -/
def IsShortest (cs : List Char) : Prop := cs.head? ≠ some '+' ∧ (cs.head? = some '0' → cs = ['0'])

theorem toNat_of_isDigit {c : Char} (h : c.isDigit = true) : 48 ≤ c.toNat ∧ c.toNat ≤ 57 :=
  Char.isDigit_iff_toNat.1 h

theorem toDigits_of_isDigit {c : Char} (h : c.isDigit = true) : Nat.toDigits 10 (c.toNat - 48) = [c] := by
  have hc := toNat_of_isDigit h
  rw [Nat.toDigits_of_lt_base (by omega)]
  have hd : ∀ n < 10, n.digitChar = Char.ofNat (n + 48) := by decide
  rw [hd _ (by omega), show c.toNat - 48 + 48 = c.toNat by omega, Char.ofNat_toNat]

/-! ## Printing what was read -/

/-- More digits behind a number that is not zero are printed behind it. -/
theorem toDigits_ofDigitChars {cs : List Char} {n : Nat} (hd : ∀ c ∈ cs, c.isDigit = true)
    (hn : 0 < n) : Nat.toDigits 10 (Nat.ofDigitChars 10 cs n) = Nat.toDigits 10 n ++ cs := by
  induction cs generalizing n with
  | nil => simp
  | cons c cs ih =>
    have hc := hd c (by simp)
    have hr := toNat_of_isDigit hc
    have step : Nat.toDigits 10 (10 * n + (c.toNat - 48)) = Nat.toDigits 10 n ++ [c] := by
      rw [← Nat.toDigits_append_toDigits (by decide) hn (by omega), toDigits_of_isDigit hc]
    rw [Nat.ofDigitChars_cons, ih (fun d h => hd d (by simp [h])) (by omega)]
    exact (congrArg (· ++ cs) step).trans (List.append_assoc ..)

theorem of_digitsFrom? {largest n m : Nat} {cs : List Char} (h : digitsFrom? largest n cs = some m) :
    (∀ c ∈ cs, c.isDigit = true) ∧ m = Nat.ofDigitChars 10 cs n := by
  induction cs generalizing n with
  | nil => cases h; simp
  | cons c cs ih =>
    rw [digitsFrom?] at h
    split at h
    · rename_i hc
      obtain ⟨hd, rfl⟩ := ih h
      exact ⟨by simpa using ⟨hc.1, hd⟩, Nat.ofDigitChars_cons.symm⟩
    · cases h

theorem not_mem_print {c : Char} (hc : c.isDigit = false) (n : Nat) : c ∉ print n := by
  intro h
  rw [isDigit_of_mem_print h] at hc
  cases hc

/-- What reads as a number is a row of digits, perhaps behind a plus. -/
theorem not_mem_of_read? {largest n : Nat} {cs : List Char} {c : Char} (h : read? largest cs = some n)
    (hc : c.isDigit = false) (hplus : c ≠ '+') : c ∉ cs := by
  have key : ∀ {cs}, digits? largest cs = some n → c ∉ cs := by
    intro cs h hm
    rw [digits?] at h
    split at h
    · cases h
    · have := (of_digitsFrom? h).1 c hm
      rw [hc] at this
      cases this
  rw [read?.eq_def] at h
  split at h
  · simpa [hplus] using key h
  · exact key h

theorem read?_of_head?_ne {largest : Nat} {cs : List Char} (h : cs.head? ≠ some '+') :
    read? largest cs = digits? largest cs := by
  rw [read?.eq_def]
  split
  · simp at h
  · rfl

/-! ## What is read -/

theorem le_of_digitsFrom? {largest n m : Nat} {cs : List Char} (h : digitsFrom? largest n cs = some m) (hn : n ≤ largest) :
    m ≤ largest := by
  induction cs generalizing n with
  | nil =>
    cases h
    exact hn
  | cons c cs ih =>
    rw [digitsFrom?] at h
    split at h
    · exact ih h ‹_ ∧ _›.2
    · cases h

/-- A text that stands for a number of at most `largest`: digits, at least one of them, which may have
a plus sign in front. -/
def IsNumeral (largest : Nat) (cs : List Char) (n : Nat) : Prop :=
  ∃ digits, (cs = digits ∨ cs = '+' :: digits) ∧ digits ≠ [] ∧ (∀ c ∈ digits, c.isDigit = true) ∧
    n = Nat.ofDigitChars 10 digits 0 ∧ n ≤ largest

theorem digits?_eq_some_iff {largest n : Nat} {cs : List Char} :
    digits? largest cs = some n ↔
      cs ≠ [] ∧ (∀ c ∈ cs, c.isDigit = true) ∧ n = Nat.ofDigitChars 10 cs 0 ∧ n ≤ largest := by
  rw [digits?]
  split
  · simp [*]
  · rename_i hne
    constructor
    · intro h
      obtain ⟨hd, hv⟩ := of_digitsFrom? h
      exact ⟨hne, hd, hv, le_of_digitsFrom? h (Nat.zero_le _)⟩
    · rintro ⟨-, hd, rfl, hle⟩
      exact digitsFrom?_eq hd hle

/-- The texts that a number is read from. -/
theorem read?_eq_some_iff {largest n : Nat} {cs : List Char} : read? largest cs = some n ↔ IsNumeral largest cs n := by
  by_cases hplus : ∃ digits, cs = '+' :: digits
  · obtain ⟨digits, rfl⟩ := hplus
    rw [read?, digits?_eq_some_iff]
    constructor
    · exact fun h => ⟨digits, .inr rfl, h⟩
    · rintro ⟨digits', rfl | h, hne, hd, hv⟩
      · exact absurd (hd '+' (List.mem_cons_self ..)) (by decide)
      · obtain ⟨-, rfl⟩ := List.cons.inj h
        exact ⟨hne, hd, hv⟩
  · have hhead : cs.head? ≠ some '+' := fun h => hplus (List.head?_eq_some_iff.1 h)
    rw [read?_of_head?_ne hhead, digits?_eq_some_iff]
    constructor
    · exact fun h => ⟨cs, .inl rfl, h⟩
    · rintro ⟨digits, rfl | rfl, h⟩
      · exact h
      · exact absurd rfl hhead

/-! ## The shortest text -/

/-- A number other than zero is printed without a zero in front. -/
theorem head?_toDigits_ne {n : Nat} (hn : 0 < n) : (Nat.toDigits 10 n).head? ≠ some '0' := by
  induction n using Nat.strongRecOn with
  | _ n ih =>
    by_cases h : n < 10
    · rw [Nat.toDigits_of_lt_base h]
      have hd : ∀ n < 10, 0 < n → n.digitChar ≠ '0' := by decide
      simpa using hd n h hn
    · have hi := ih (n / 10) (by omega) (by omega)
      rw [Nat.toDigits_of_base_le (by decide) (by omega)]
      cases ht : Nat.toDigits 10 (n / 10) with
      | nil => exact absurd ht Nat.toDigits_ne_nil
      | cons d ds => simpa [ht] using hi

theorem isShortest_print (n : Nat) : IsShortest (print n) := by
  refine ⟨fun h => ?_, fun h => ?_⟩
  · have := isDigit_of_mem_print (List.mem_of_mem_head? h)
    exact absurd this (by decide)
  · cases n with
    | zero => rfl
    | succ n => exact absurd h (head?_toDigits_ne (Nat.succ_pos n))

/-- Of the texts that read as a number, the printed one is the shortest. -/
theorem eq_print_iff_of_read? {largest n : Nat} {cs : List Char} (h : read? largest cs = some n) :
    cs = print n ↔ IsShortest cs := by
  constructor
  · rintro rfl
    exact isShortest_print n
  · rintro ⟨hplus, hzero⟩
    rw [read?_of_head?_ne hplus, digits?] at h
    split at h
    · cases h
    obtain ⟨hd, rfl⟩ := of_digitsFrom? h
    cases cs with
    | nil => contradiction
    | cons c cs =>
      have hc := hd c (by simp)
      have hr := toNat_of_isDigit hc
      rw [print, Nat.ofDigitChars_cons]
      by_cases h0 : c = '0'
      · subst h0
        obtain ⟨-, rfl⟩ := List.cons.inj (hzero rfl)
        rfl
      · have hne : c.toNat ≠ 48 := fun e => h0 (Char.toNat_inj.1 e)
        rw [toDigits_ofDigitChars (fun d h => hd d (by simp [h])) (by simp; omega)]
        simp [toDigits_of_isDigit hc]

end DownloadGateway.Decimal
