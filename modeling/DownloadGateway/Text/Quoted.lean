import DownloadGateway.Text.Invisible
/-!
# Quoted texts

A text in double quotes, for people to read: quotes and backslashes are escaped,
and so is everything that would not be seen.
-/

namespace DownloadGateway.Text

/-- The lower-case hexadecimal digits of a number, without leading zeros. -/
def hexDigits (n : Nat) : List Char := Nat.toDigits 16 n

/-- A character inside the quotes. -/
def quotedChar (c : Char) : List Char :=
  if c = '"' then ['\\', '"']
  else if c = '\\' then ['\\', '\\']
  else if c.toNat = 0 then ['\\', '0']
  else if c.toNat = 9 then ['\\', 't']
  else if c.toNat = 10 then ['\\', 'n']
  else if c.toNat = 13 then ['\\', 'r']
  else if isInvisible c then "\\u\x7b".toList ++ hexDigits c.toNat ++ "\x7d".toList
  else [c]

/-- A text in quotes. -/
def quoted (s : String) : String :=
  "\"" ++ String.ofList (s.toList.flatMap quotedChar) ++ "\""

end DownloadGateway.Text
