import DownloadGateway.Bytes
/-!
# Base64

Three bytes make four characters. `encode` writes either alphabet: the standard
one, whose last group is padded with `=`, and the URL-safe one, which goes
unpadded. `decode?` reads the URL-safe one strictly: foreign characters, padding,
impossible lengths and stray bits behind the last byte are all refused, so each
byte string has exactly one accepted spelling.
-/

namespace DownloadGateway.Base64

/-- The two alphabets, which differ in their last two characters and in padding. -/
inductive Alphabet where
  | standard
  | urlSafe
  deriving Repr, DecidableEq

/-- The character for six bits. -/
def Alphabet.digit (a : Alphabet) (n : Nat) : Char :=
  if n < 26 then Char.ofNat (n + 65)
  else if n < 52 then Char.ofNat (n + 71)
  else if n < 62 then Char.ofNat (n - 4)
  else if n = 62 then (match a with | .standard => '+' | .urlSafe => '-')
  else (match a with | .standard => '/' | .urlSafe => '_')

/-- The six bits a character stands for. -/
def Alphabet.value? (a : Alphabet) (c : Char) : Option Nat :=
  let n := c.toNat
  if 65 ≤ n ∧ n ≤ 90 then some (n - 65)
  else if 97 ≤ n ∧ n ≤ 122 then some (n - 71)
  else if 48 ≤ n ∧ n ≤ 57 then some (n + 4)
  else if c = a.digit 62 then some 62
  else if c = a.digit 63 then some 63
  else none

/-- `n` padding characters, in the alphabet that pads. -/
def Alphabet.padding (a : Alphabet) (n : Nat) : List Char :=
  match a with
  | .standard => List.replicate n '='
  | .urlSafe => []

/-- Writes bytes in groups of three. -/
def encode (a : Alphabet) : Bytes → List Char
  | [] => []
  | [x] =>
    let n := x.toNat * 16
    [a.digit (n / 64), a.digit (n % 64)] ++ a.padding 2
  | [x, y] =>
    let n := (x.toNat * 256 + y.toNat) * 4
    [a.digit (n / 4096), a.digit (n / 64 % 64), a.digit (n % 64)] ++ a.padding 1
  | x :: y :: z :: rest =>
    let n := (x.toNat * 256 + y.toNat) * 256 + z.toNat
    a.digit (n / 262144) :: a.digit (n / 4096 % 64) :: a.digit (n / 64 % 64) :: a.digit (n % 64) ::
      encode a rest

/-- The bytes of two, three or four values of six bits. A short last group must
not carry bits beyond its last byte. -/
def decodeValues? : List Nat → Option Bytes
  | [] => some []
  | [_] => none
  | [p, q] =>
    let n := p * 64 + q
    if n % 16 = 0 then some [.ofNat (n / 16)] else none
  | [p, q, r] =>
    let n := (p * 64 + q) * 64 + r
    if n % 4 = 0 then some [.ofNat (n / 1024), .ofNat (n / 4 % 256)] else none
  | p :: q :: r :: s :: rest =>
    let n := ((p * 64 + q) * 64 + r) * 64 + s
    (decodeValues? rest).map ([.ofNat (n / 65536), .ofNat (n / 256 % 256), .ofNat (n % 256)] ++ ·)

/-- Reads unpadded URL-safe text. -/
def decode? (cs : List Char) : Option Bytes :=
  (cs.mapM Alphabet.urlSafe.value?).bind decodeValues?

/-- Unpadded URL-safe text. -/
def encodeUrl (bs : Bytes) : List Char := encode .urlSafe bs

end DownloadGateway.Base64
