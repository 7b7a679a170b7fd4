import DownloadGateway.Text.Json
/-!
# Sidecar files

The content type of a blob on disk is kept in a file beside it, a JSON object with
the one key `content_type`. Reading also takes an array holding just the content
type, skips other keys, and refuses a key given twice and anything behind the
value.
-/

namespace DownloadGateway.Sidecar

/-- The key of the content type. -/
def key : String := "content_type"

/-- The file for a content type. -/
def write (contentType : String) : Bytes :=
  Utf8.encodeChars
    ("\x7b".toList ++ Json.quote key.toList ++ ":".toList ++ Json.quote contentType.toList
      ++ "\x7d".toList)

/-- A string, behind white space. -/
def stringValue? (bs : Bytes) : Option (String × Bytes) := do
  let (mark, rest) ← Json.next? bs
  if mark = 0x22 then Json.string? rest else none

/-- The value behind the key `name`: a content type that may be given only once, or
anything else, which is skipped in at most `steps` steps. `found` is the content type
read so far. -/
def member? (steps : Nat) (name : String) (found : Option String) (bs : Bytes) :
    Option (Option String × Bytes) :=
  if name = key then
    if found.isSome then none else (stringValue? bs).map fun (text, rest) => (some text, rest)
  else (Json.skipValueIn? steps bs).map (found, ·)

/-- Reads the members of an object up to its brace. The first argument bounds the
steps for each value, the second the number of members. -/
def members? (steps : Nat) : Nat → Option String → Bytes → Option (String × Bytes)
  | 0, _, _ => none
  | n + 1, found, bs => do
    let (name, rest) ← stringValue? bs
    let (colon, rest) ← Json.next? rest
    if colon ≠ 0x3A then none
    else
      let (found, rest) ← member? steps name found rest
      let (mark, rest) ← Json.next? rest
      if mark = 0x2C then members? steps n found rest
      else if mark = 0x7D then found.map (·, rest)
      else none

/-- Reads the value of a sidecar file and gives back what follows it. -/
def value? (bs : Bytes) : Option (String × Bytes) := do
  let (mark, rest) ← Json.next? bs
  if mark = 0x7B then members? (Json.stepsFor bs) (bs.length + 1) none rest
  else if mark = 0x5B then
    let (text, rest) ← stringValue? rest
    let (mark, rest) ← Json.next? rest
    if mark = 0x5D then some (text, rest) else none
  else none

/-- The content type that a sidecar file holds, unless it is corrupt. -/
def read? (bs : Bytes) : Option String :=
  match value? bs with
  | some (text, rest) => if Json.skipBlank rest = [] then some text else none
  | none => none

/-- What is said of a corrupt file, where a parser would say what it stumbled over. -/
def corrupt : String := "<json error>"

end DownloadGateway.Sidecar
