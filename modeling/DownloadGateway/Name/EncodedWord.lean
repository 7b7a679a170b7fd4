import DownloadGateway.Text.Base64
import DownloadGateway.Text.Percent
/-!
# Encoded words

A text that a header cannot hold is carried as RFC 2047 encoded words: the text is
cut at character boundaries into pieces, and each piece becomes one word of at
most 75 bytes. Both encodings cut greedily with `pack`; they differ in what a
character costs and how a piece is written. The shorter result wins, and `Q` if
they are equally long.
-/

namespace DownloadGateway.EncodedWord

/-- Cuts a list into pieces, none empty but the last, each as long as the limit on its
total cost allows. `piece` is what the current piece holds, last element first,
and `used` what it costs. -/
def packFrom {α : Type} (cost : α → Nat) (limit : Nat) (piece : List α) (used : Nat) :
    List α → List (List α)
  | [] => [piece.reverse]
  | x :: xs =>
    if used + cost x > limit then piece.reverse :: packFrom cost limit [x] (cost x) xs
    else packFrom cost limit (x :: piece) (used + cost x) xs

/-- Cuts a list into pieces; there is always at least one. -/
def pack {α : Type} (cost : α → Nat) (limit : Nat) (xs : List α) : List (List α) :=
  packFrom cost limit [] 0 xs

theorem packFrom_ne_nil {α : Type} (cost : α → Nat) (limit : Nat) (piece : List α) (used : Nat)
    (xs : List α) : packFrom cost limit piece used xs ≠ [] := by
  induction xs generalizing piece used with
  | nil => simp [packFrom]
  | cons x xs ih => simp only [packFrom]; split <;> simp [ih]

/-- Cutting loses and reorders nothing. -/
theorem flatten_packFrom {α : Type} (cost : α → Nat) (limit : Nat) (piece : List α) (used : Nat)
    (xs : List α) : (packFrom cost limit piece used xs).flatten = piece.reverse ++ xs := by
  induction xs generalizing piece used with
  | nil => simp [packFrom]
  | cons x xs ih => simp only [packFrom]; split <;> simp [ih]

/-- The two encodings of RFC 2047. -/
inductive Encoding where
  | q
  | b
  deriving Repr, DecidableEq

/-- The longest word allowed. -/
def maxWord : Nat := 75

/-- What stands before the payload of a word. -/
def Encoding.opening : Encoding → List Char
  | .q => "=?UTF-8?Q?".toList
  | .b => "=?UTF-8?B?".toList

/-- What stands after the payload of a word. -/
def closing : List Char := "?=".toList

/-- The longest payload: a word less its opening and closing. -/
def maxPayload : Nat := maxWord - Encoding.q.opening.length - closing.length

/-- The most bytes whose base64 is no longer than a payload may be. -/
def maxRaw : Nat := maxPayload / 4 * 3

/-- Whether a byte of a `Q` payload has to be escaped. -/
def needsEscape (b : UInt8) : Bool :=
  let n := b.toNat
  n < 0x21 || 0x7E < n || n == 0x3D || n == 0x3F || n == 0x5F || n == 0x22 || n == 0x5C

/-- A byte of a `Q` payload: a space is `_`, and what needs an escape is `=XX`. -/
def qByte (b : UInt8) : List Char :=
  if b = 0x20 then ['_']
  else if needsEscape b then
    ['=', Percent.hexDigit (b.toNat / 16), Percent.hexDigit (b.toNat % 16)]
  else [Char.ofNat b.toNat]

/-- A character of a `Q` payload, byte by byte. -/
def qChar (c : Char) : List Char := (Utf8.encodeChar c).flatMap qByte

/-- The pieces of a text, one for each word. -/
def Encoding.pieces : Encoding → List Char → List (List Char)
  | .q => pack (fun c => (qChar c).length) maxPayload
  | .b => pack (fun c => (Utf8.encodeChar c).length) maxRaw

/-- The payload for a piece. -/
def Encoding.payload : Encoding → List Char → List Char
  | .q, piece => piece.flatMap qChar
  | .b, piece => Base64.encode .standard (Utf8.encodeChars piece)

/-- The word for a piece. -/
def Encoding.word (e : Encoding) (piece : List Char) : List Char :=
  e.opening ++ e.payload piece ++ closing

/-- The words for a text. -/
def Encoding.words (e : Encoding) (cs : List Char) : List (List Char) :=
  (e.pieces cs).map e.word

/-- The words for a text, joined by single spaces. -/
def Encoding.joined (e : Encoding) (cs : List Char) : List Char :=
  [' '].intercalate (e.words cs)

/-- The encoding with the shorter result. -/
def choose (cs : List Char) : Encoding :=
  if (Encoding.q.joined cs).length ≤ (Encoding.b.joined cs).length then .q else .b

/-- A text as encoded words. -/
def encode (s : String) : String :=
  String.ofList ((choose s.toList).joined s.toList)

end DownloadGateway.EncodedWord
