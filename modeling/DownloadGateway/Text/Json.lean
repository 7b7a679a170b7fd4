import DownloadGateway.Text.Utf8
/-!
# JSON texts

Readers take bytes off the front of an input and give back what follows. Strings
are read strictly, as UTF-8 without lone surrogates; a value nobody asks for only
has to be well-formed. `quote` writes a string, escaping what JSON forbids inside
one and nothing else.
-/

namespace DownloadGateway.Json

/-! ## Writing -/

/-- The lower-case hexadecimal digit for four bits. -/
def hexDigit (n : Nat) : Char := Char.ofNat (if n < 10 then n + 48 else n + 87)

/-- A character inside a string. -/
def escapeChar (c : Char) : List Char :=
  if c = '"' then ['\\', '"']
  else if c = '\\' then ['\\', '\\']
  else if c.toNat = 8 then ['\\', 'b']
  else if c.toNat = 9 then ['\\', 't']
  else if c.toNat = 10 then ['\\', 'n']
  else if c.toNat = 12 then ['\\', 'f']
  else if c.toNat = 13 then ['\\', 'r']
  else if c.toNat < 0x20 then
    ['\\', 'u', '0', '0', hexDigit (c.toNat / 16), hexDigit (c.toNat % 16)]
  else [c]

/-- A string with its quotes. -/
def quote (cs : List Char) : List Char := '"' :: (cs.flatMap escapeChar ++ ['"'])

/-! ## Reading -/

/-- Drops white space. -/
def skipBlank (bs : Bytes) : Bytes :=
  bs.dropWhile fun b => b == 0x20 || b == 0x09 || b == 0x0A || b == 0x0D

/-- The first byte behind white space, and what follows it. -/
def next? (bs : Bytes) : Option (UInt8 × Bytes) :=
  match skipBlank bs with
  | [] => none
  | b :: rest => some (b, rest)

/-- The value of a hexadecimal digit of either case. -/
def hexValue? (b : UInt8) : Option Nat :=
  let n := b.toNat
  if 48 ≤ n ∧ n ≤ 57 then some (n - 48)
  else if 65 ≤ n ∧ n ≤ 70 then some (n - 55)
  else if 97 ≤ n ∧ n ≤ 102 then some (n - 87)
  else none

/-- The sixteen bits that four hexadecimal digits stand for. -/
def unit? (a b c d : UInt8) : Option Nat :=
  match hexValue? a, hexValue? b, hexValue? c, hexValue? d with
  | some a, some b, some c, some d => some (((a * 16 + b) * 16 + c) * 16 + d)
  | _, _, _, _ => none

/-- The byte that a one-letter escape stands for. -/
def escape? (b : UInt8) : Option UInt8 :=
  match b.toNat with
  | 0x22 => some 0x22
  | 0x5C => some 0x5C
  | 0x2F => some 0x2F
  | 0x62 => some 0x08
  | 0x66 => some 0x0C
  | 0x6E => some 0x0A
  | 0x72 => some 0x0D
  | 0x74 => some 0x09
  | _ => none

/-- The bytes of a string up to its closing quote. A surrogate counts only as part
of a pair. -/
def stringBytes? : Bytes → Option (Bytes × Bytes)
  | [] => none
  | 0x22 :: rest => some ([], rest)
  | 0x5C :: 0x75 :: a :: b :: c :: d :: rest =>
    match unit? a b c d with
    | none => none
    | some high =>
      if 0xD800 ≤ high ∧ high < 0xDC00 then
        match rest with
        | 0x5C :: 0x75 :: e :: f :: g :: h :: rest' =>
          match unit? e f g h with
          | none => none
          | some low =>
            if 0xDC00 ≤ low ∧ low < 0xE000 then
              let point := 0x10000 + (high - 0xD800) * 0x400 + (low - 0xDC00)
              (stringBytes? rest').map fun (bs, tail) =>
                (Utf8.encodeChar (Char.ofNat point) ++ bs, tail)
            else none
        | _ => none
      else if 0xDC00 ≤ high ∧ high < 0xE000 then none
      else (stringBytes? rest).map fun (bs, tail) => (Utf8.encodeChar (Char.ofNat high) ++ bs, tail)
  | 0x5C :: b :: rest =>
    match escape? b with
    | none => none
    | some e => (stringBytes? rest).map fun (bs, tail) => (e :: bs, tail)
  | b :: rest =>
    if b.toNat < 0x20 then none else (stringBytes? rest).map fun (bs, tail) => (b :: bs, tail)

/-- The text of a string, behind its opening quote. -/
def string? (bs : Bytes) : Option (String × Bytes) := do
  let (content, rest) ← stringBytes? bs
  let text ← Utf8.decode? content
  some (text, rest)

/-- Drops a string, behind its opening quote. -/
def skipString? : Bytes → Option Bytes
  | [] => none
  | 0x22 :: rest => some rest
  | 0x5C :: 0x75 :: a :: b :: c :: d :: rest =>
    if (unit? a b c d).isSome then skipString? rest else none
  | 0x5C :: b :: rest => if (escape? b).isSome then skipString? rest else none
  | b :: rest => if b.toNat < 0x20 then none else skipString? rest

def isDigit (b : UInt8) : Bool := 48 ≤ b.toNat && b.toNat ≤ 57

/-- Drops at least one digit. -/
def skipDigits? : Bytes → Option Bytes
  | b :: rest => if isDigit b then some (rest.dropWhile isDigit) else none
  | [] => none

/-- Drops the digits in front of a fraction: a lone zero, or digits that start with none. -/
def skipInteger? : Bytes → Option Bytes
  | 0x30 :: b :: rest => if isDigit b then none else some (b :: rest)
  | bs => skipDigits? bs

/-- Drops a fraction, if there is one. -/
def skipFraction? : Bytes → Option Bytes
  | 0x2E :: rest => skipDigits? rest
  | bs => some bs

/-- Drops an exponent, if there is one. -/
def skipExponent? : Bytes → Option Bytes
  | b :: rest =>
    if b = 0x65 ∨ b = 0x45 then
      match rest with
      | s :: rest' => if s = 0x2B ∨ s = 0x2D then skipDigits? rest' else skipDigits? rest
      | [] => none
    else some (b :: rest)
  | [] => some []

/-- Drops a number. -/
def skipNumber? (bs : Bytes) : Option Bytes :=
  let unsigned := match bs with
    | 0x2D :: rest => rest
    | bs => bs
  (skipInteger? unsigned).bind fun rest => (skipFraction? rest).bind skipExponent?

/-- Drops a word, if it stands in front. -/
def skipWord? (word : String) (bs : Bytes) : Option Bytes :=
  let w := Utf8.encode word
  if w.isPrefixOf bs then some (bs.drop w.length) else none

mutual

/-- Drops a value. The first argument bounds the number of steps. -/
def skipValueIn? : Nat → Bytes → Option Bytes
  | 0, _ => none
  | n + 1, bs =>
    match skipBlank bs with
    | [] => none
    | b :: rest =>
      if b = 0x22 then skipString? rest
      else if b = 0x5B then
        match skipBlank rest with
        | 0x5D :: rest' => some rest'
        | rest' => skipItemsIn? n rest'
      else if b = 0x7B then
        match skipBlank rest with
        | 0x7D :: rest' => some rest'
        | rest' => skipMembersIn? n rest'
      else if b = 0x6E then skipWord? "null" (b :: rest)
      else if b = 0x74 then skipWord? "true" (b :: rest)
      else if b = 0x66 then skipWord? "false" (b :: rest)
      else skipNumber? (b :: rest)

/-- Drops the items of an array and the bracket behind them. -/
def skipItemsIn? : Nat → Bytes → Option Bytes
  | 0, _ => none
  | n + 1, bs =>
    match skipValueIn? n bs with
    | none => none
    | some rest =>
      match skipBlank rest with
      | 0x2C :: rest' => skipItemsIn? n rest'
      | 0x5D :: rest' => some rest'
      | _ => none

/-- Drops the members of an object and the brace behind them. -/
def skipMembersIn? : Nat → Bytes → Option Bytes
  | 0, _ => none
  | n + 1, bs =>
    match skipBlank bs with
    | 0x22 :: rest =>
      match (skipString? rest).map skipBlank with
      | some (0x3A :: rest') =>
        match (skipValueIn? n rest').map skipBlank with
        | some (0x2C :: tail) => skipMembersIn? n tail
        | some (0x7D :: tail) => some tail
        | _ => none
      | _ => none
    | _ => none

end

/-- As many steps as dropping a value can take: every second step at least takes a byte. -/
def stepsFor (bs : Bytes) : Nat := 2 * bs.length + 2

end DownloadGateway.Json
