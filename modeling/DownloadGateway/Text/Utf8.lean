import DownloadGateway.Bytes
/-!
# UTF-8

`encode` writes a text as bytes. `decode` reads it back and, on bytes that are
no UTF-8, reports where the valid part ends and how long the offending sequence
is. `decodeLossy` puts one replacement character in place of each offending
sequence instead. Both readers are built on `front`, which takes one character,
or one maximal invalid piece, off the front of a byte string.
-/

namespace DownloadGateway.Utf8

/-- The one to four bytes of a character. -/
def encodeChar (c : Char) : Bytes :=
  let n := c.toNat
  if n < 0x80 then
    [.ofNat n]
  else if n < 0x800 then
    [.ofNat (0xC0 + n / 0x40), .ofNat (0x80 + n % 0x40)]
  else if n < 0x10000 then
    [.ofNat (0xE0 + n / 0x1000), .ofNat (0x80 + n / 0x40 % 0x40), .ofNat (0x80 + n % 0x40)]
  else
    [.ofNat (0xF0 + n / 0x40000), .ofNat (0x80 + n / 0x1000 % 0x40),
      .ofNat (0x80 + n / 0x40 % 0x40), .ofNat (0x80 + n % 0x40)]

/-- The bytes of a list of characters. -/
def encodeChars (cs : List Char) : Bytes := cs.flatMap encodeChar

/-- The bytes of a text. -/
def encode (s : String) : Bytes := encodeChars s.toList

/-- What stands at the front of a byte string. -/
inductive Front where
  /-- A whole character, and what follows it. -/
  | char (c : Char) (rest : Bytes)
  /-- The first `length` bytes can start no character; `rest` follows them. -/
  | invalid (length : Nat) (rest : Bytes)
  /-- The input ends inside a character that was well-formed so far. -/
  | incomplete
  deriving Repr, DecidableEq

/-- Reads `need` continuation bytes, the first of them between `lo` and `hi`, on
top of the bits in `value`; `taken` bytes of the character are already read. -/
def continuation (taken value : Nat) : (need lo hi : Nat) → Bytes → Front
  | 0, _, _, rest => .char (Char.ofNat value) rest
  | _ + 1, _, _, [] => .incomplete
  | need + 1, lo, hi, b :: rest =>
    if lo ≤ b.toNat ∧ b.toNat ≤ hi then
      continuation (taken + 1) (value * 0x40 + (b.toNat - 0x80)) need 0x80 0xBF rest
    else
      .invalid taken (b :: rest)

/-- Reads one character. The bounds on the second byte rule out overlong forms,
surrogates and values above U+10FFFF, as in Table 3-7 of the Unicode standard. -/
def front (b : UInt8) (rest : Bytes) : Front :=
  let n := b.toNat
  if n < 0x80 then .char (Char.ofNat n) rest
  else if n < 0xC2 then .invalid 1 rest
  else if n < 0xE0 then continuation 1 (n - 0xC0) 1 0x80 0xBF rest
  else if n = 0xE0 then continuation 1 0 2 0xA0 0xBF rest
  else if n = 0xED then continuation 1 0xD 2 0x80 0x9F rest
  else if n < 0xF0 then continuation 1 (n - 0xE0) 2 0x80 0xBF rest
  else if n = 0xF0 then continuation 1 0 3 0x90 0xBF rest
  else if n < 0xF4 then continuation 1 (n - 0xF0) 3 0x80 0xBF rest
  else if n = 0xF4 then continuation 1 4 3 0x80 0x8F rest
  else .invalid 1 rest

/-- What a front leaves to be read. -/
def Front.rest : Front → Bytes
  | .char _ r | .invalid _ r => r
  | .incomplete => []

theorem continuation_rest_le (taken value need lo hi : Nat) (bs : Bytes) :
    (continuation taken value need lo hi bs).rest.length ≤ bs.length := by
  induction need generalizing taken value lo hi bs with
  | zero => simp [continuation, Front.rest]
  | succ need ih =>
    cases bs with
    | nil => simp [continuation, Front.rest]
    | cons b rest =>
      simp only [continuation]
      split
      · exact Nat.le_succ_of_le (ih ..)
      · simp [Front.rest]

/-- Reading a character never gives back more than was left behind its first byte. -/
theorem front_rest_le (b : UInt8) (rest : Bytes) : (front b rest).rest.length ≤ rest.length := by
  have h := continuation_rest_le
  simp only [front]
  repeat' split
  all_goals first | exact h .. | simp [Front.rest]

/-- Why bytes are no UTF-8: how many bytes are valid, and the length of the
sequence behind them; no length when the input ends inside a character. -/
structure Fault where
  validUpTo : Nat
  invalidLength : Option Nat
  deriving Repr, DecidableEq

/-- The text of a fault. -/
def Fault.message (f : Fault) : String :=
  match f.invalidLength with
  | some k => s!"invalid utf-8 sequence of {k} bytes from index {f.validUpTo}"
  | none => s!"incomplete utf-8 byte sequence from index {f.validUpTo}"

/-- Reads characters, `pos` bytes of the input being already read. -/
def decodeFrom (pos : Nat) : Bytes → Except Fault (List Char)
  | [] => .ok []
  | b :: bs =>
    match h : front b bs with
    | .char c rest =>
      have : rest.length ≤ bs.length := by simpa [h, Front.rest] using front_rest_le b bs
      (decodeFrom (pos + (encodeChar c).length) rest).map (c :: ·)
    | .invalid k _ => .error ⟨pos, some k⟩
    | .incomplete => .error ⟨pos, none⟩
  termination_by bs => bs.length
  decreasing_by simp only [List.length_cons]; omega

/-- Reads the characters of a byte string. -/
def decodeChars (bs : Bytes) : Except Fault (List Char) := decodeFrom 0 bs

/-- Reads a text. -/
def decode (bs : Bytes) : Except Fault String := (decodeChars bs).map String.ofList

/-- Reads a text if the bytes are UTF-8. -/
def decode? (bs : Bytes) : Option String := (decode bs).toOption

/-- The character that stands for bytes that are no UTF-8. -/
def replacement : Char := Char.ofNat 0xFFFD

/-- Reads characters, with one replacement character for each maximal invalid piece. -/
def decodeLossyChars : Bytes → List Char
  | [] => []
  | b :: bs =>
    match h : front b bs with
    | .char c rest =>
      have : rest.length ≤ bs.length := by simpa [h, Front.rest] using front_rest_le b bs
      c :: decodeLossyChars rest
    | .invalid _ rest =>
      have : rest.length ≤ bs.length := by simpa [h, Front.rest] using front_rest_le b bs
      replacement :: decodeLossyChars rest
    | .incomplete => [replacement]
  termination_by bs => bs.length
  decreasing_by all_goals simp only [List.length_cons]; omega

/-- Reads a text, with replacement characters where the bytes are no UTF-8. -/
def decodeLossy (bs : Bytes) : String := String.ofList (decodeLossyChars bs)

end DownloadGateway.Utf8
