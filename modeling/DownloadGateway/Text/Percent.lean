import DownloadGateway.Text.Utf8
/-!
# Percent escapes in forms

In a form, `+` is a space and `%XX` a byte; anything else is its own UTF-8.
`lenient` reads a form text in a single pass, so nothing is decoded twice. A reader
that is to refuse wrong escapes takes several: `malformed` looks for a `%` that starts
no escape, `spaced` and `unescape` put in what `+` and the escapes stand for.
-/

namespace DownloadGateway.Percent

/-- The value of a hexadecimal digit of either case. -/
def hexValue? (c : Char) : Option Nat :=
  let n := c.toNat
  if 48 ≤ n ∧ n ≤ 57 then some (n - 48)
  else if 65 ≤ n ∧ n ≤ 70 then some (n - 55)
  else if 97 ≤ n ∧ n ≤ 102 then some (n - 87)
  else none

/-- The upper-case hexadecimal digit for four bits. -/
def hexDigit (n : Nat) : Char := Char.ofNat (if n < 10 then n + 48 else n + 55)

/-- The byte that two hexadecimal digits stand for. -/
def escape? (high low : Char) : Option UInt8 :=
  match hexValue? high, hexValue? low with
  | some h, some l => some (.ofNat (h * 16 + l))
  | _, _ => none

/-- The bytes of a form text; a `%` that starts no escape stands for itself. -/
def lenient : List Char → Bytes
  | [] => []
  | '%' :: h :: l :: cs =>
    match escape? h l with
    | some b => b :: lenient cs
    | none => 0x25 :: lenient (h :: l :: cs)
  | c :: cs => (if c = '+' then [0x20] else Utf8.encodeChar c) ++ lenient cs

/-- The character that a byte is in ASCII; for any other byte, it is no digit. -/
def charOf (b : UInt8) : Char := Char.ofNat b.toNat

/-- Whether a byte is a hexadecimal digit. -/
def isDigit (b : UInt8) : Bool := (hexValue? (charOf b)).isSome

/-- Whether some `%` is not followed by two hexadecimal digits. -/
def malformed : Bytes → Bool
  | [] => false
  | b :: bs => (b == 0x25 && !(bs[0]?.any isDigit && bs[1]?.any isDigit)) || malformed bs

/-- A form text with its `+` turned into spaces. -/
def spaced (cs : List Char) : List Char := cs.map fun c => if c = '+' then ' ' else c

/-- The bytes that escapes stand for; a `%` that starts no escape stands for itself. -/
def unescape : Bytes → Bytes
  | b :: h :: l :: bs =>
    match if b = 0x25 then escape? (charOf h) (charOf l) else none with
    | some e => e :: unescape bs
    | none => b :: unescape (h :: l :: bs)
  | bs => bs

end DownloadGateway.Percent
