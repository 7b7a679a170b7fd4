/-!
# Decimal numbers

`print` writes the shortest digits of a number. `read?` accepts one optional `+`
and at least one digit, leading zeros included, up to a largest value. So every
printed number reads back, and a read text is printed again exactly if it has no
sign and no leading zero.
-/

namespace DownloadGateway.Decimal

/-- The digits of a number. -/
def print (n : Nat) : List Char := Nat.toDigits 10 n

/-- The value of some digits behind those that make up `n`. Reading stops as soon as the
value passes `largest`, which no further digit can undo. -/
def digitsFrom? (largest n : Nat) : List Char → Option Nat
  | [] => some n
  | c :: cs =>
    let n := 10 * n + (c.toNat - '0'.toNat)
    if c.isDigit ∧ n ≤ largest then digitsFrom? largest n cs else none

/-- The value of a text of digits, at most `largest`. -/
def digits? (largest : Nat) (cs : List Char) : Option Nat :=
  if cs = [] then none else digitsFrom? largest 0 cs

/-- The value of a number with an optional `+`, at most `largest`. -/
def read? (largest : Nat) : List Char → Option Nat
  | '+' :: cs => digits? largest cs
  | cs => digits? largest cs

/-- The largest number of 16 bits. -/
def max16 : Nat := 0xFFFF

/-- The largest number of 64 bits. -/
def max64 : Nat := 0xFFFFFFFFFFFFFFFF

theorem print_ne_nil (n : Nat) : print n ≠ [] := Nat.toDigits_ne_nil

theorem isDigit_of_mem_print {n : Nat} {c : Char} (h : c ∈ print n) : c.isDigit = true :=
  Nat.isDigit_of_mem_toDigits (by decide) (by decide) h

theorem le_ofDigitChars (cs : List Char) (n : Nat) : n ≤ Nat.ofDigitChars 10 cs n := by
  induction cs generalizing n with
  | nil => simp
  | cons c cs ih =>
    rw [Nat.ofDigitChars_cons]
    exact Nat.le_trans (by omega) (ih _)

theorem digitsFrom?_eq {largest n : Nat} {cs : List Char} (hd : ∀ c ∈ cs, c.isDigit = true)
    (hv : Nat.ofDigitChars 10 cs n ≤ largest) :
    digitsFrom? largest n cs = some (Nat.ofDigitChars 10 cs n) := by
  induction cs generalizing n with
  | nil => simp [digitsFrom?]
  | cons c cs ih =>
    rw [Nat.ofDigitChars_cons] at hv ⊢
    have hc : c.isDigit = true := hd c (List.mem_cons_self ..)
    have hn := Nat.le_trans (le_ofDigitChars cs _) hv
    simp only [digitsFrom?, hc, hn, and_self, if_true]
    exact ih (fun d h => hd d (List.mem_cons_of_mem _ h)) hv

theorem digits?_print {largest n : Nat} (h : n ≤ largest) : digits? largest (print n) = some n := by
  have hv : Nat.ofDigitChars 10 (print n) 0 = n := Nat.ofDigitChars_toDigits (by decide) (by decide)
  rw [digits?, if_neg (print_ne_nil n), digitsFrom?_eq (fun c => isDigit_of_mem_print) (by omega), hv]

/-- A printed number reads back. -/
theorem read?_print {largest n : Nat} (h : n ≤ largest) : read? largest (print n) = some n := by
  rw [← digits?_print h, read?.eq_def]
  split
  · rename_i cs hp
    have : ('+' : Char).isDigit = true := isDigit_of_mem_print (n := n) (by simp [hp])
    exact absurd this (by decide)
  · rfl

end DownloadGateway.Decimal
