import DownloadGateway.Text.Cut
import DownloadGateway.Text.Utf8
/-!
# Request targets

The target of a request is a path with an optional query (`/a/b?c`), a whole URI
(`http://host/a?b`), a bare authority (`host:80`), whose path is empty, or `*`.
A fragment is dropped. `Target.read?` refuses a target with characters that have
to be escaped where they stand.
-/

namespace DownloadGateway.Http

/-- The part of a target that requests are served by. -/
structure Target where
  path : String
  query : Option String
  deriving Repr, DecidableEq

namespace Target

/-- The longest target, in bytes. -/
def maxLength : Nat := 65534

/-- The longest scheme. -/
def maxScheme : Nat := 64

/-- Whether a path may hold a character unescaped. -/
def isPathChar (c : Char) : Bool :=
  let n := c.toNat
  n == 0x21 || n == 0x22 || (0x24 ≤ n && n ≤ 0x3B) || n == 0x3D || (0x40 ≤ n && n ≤ 0x5F) ||
    (0x61 ≤ n && n ≤ 0x7E) || 0x80 ≤ n

/-- Whether a query may hold a character unescaped. -/
def isQueryChar (c : Char) : Bool :=
  let n := c.toNat
  n == 0x21 || (0x24 ≤ n && n ≤ 0x3B) || n == 0x3D || (0x3F ≤ n && n ≤ 0x7E) || 0x80 ≤ n

/-- Reads a path and a query, up to a fragment. An empty path is the root. -/
def readPath? (cs : List Char) : Option Target :=
  let path := cs.takeWhile fun c => c ≠ '?' ∧ c ≠ '#'
  let pathText := if path = [] then "/" else String.ofList path
  if path.all isPathChar then
    match cs.drop path.length with
    | '?' :: rest =>
      let query := rest.takeWhile (· ≠ '#')
      if query.all isQueryChar then some ⟨pathText, some (String.ofList query)⟩ else none
    | _ => some ⟨pathText, none⟩
  else none

/-- What has been seen of an authority. -/
structure AuthorityScan where
  colons : Nat := 0
  opened : Bool := false
  closed : Bool := false
  escaped : Bool := false
  endsAtUser : Bool := false
  deriving DecidableEq

/-- One character of an authority; nothing if it cannot stand there. What comes
before an `@` or a `]` is no port, so colons and escapes seen there are forgotten. -/
def AuthorityScan.step (s : AuthorityScan) (c : Char) : Option AuthorityScan :=
  let s := { s with endsAtUser := false }
  if c = ':' then
    if s.colons ≥ 8 then none else some { s with colons := s.colons + 1 }
  else if c = '[' then
    if s.escaped || s.opened then none else some { s with opened := true }
  else if c = ']' then
    if !s.opened || s.closed then none
    else some { s with closed := true, colons := 0, escaped := false }
  else if c = '@' then some { s with colons := 0, escaped := false, endsAtUser := true }
  else if c = '%' then some { s with escaped := true }
  else if c.isAlphanum || "!$&'()*+,-.;=_~".toList.contains c then some s
  else none

/-- Whether an authority is complete: brackets closed, one port at most, no escape
in the host, and a host behind the user. -/
def AuthorityScan.accepts (s : AuthorityScan) : Bool :=
  s.opened == s.closed && s.colons ≤ 1 && !s.endsAtUser && !s.escaped

/-- The text behind an authority, if there is a well-formed one in front. -/
def afterAuthority? (cs : List Char) : Option (List Char) :=
  let authority := cs.takeWhile fun c => c ≠ '/' ∧ c ≠ '?' ∧ c ≠ '#'
  match authority.foldlM AuthorityScan.step {} with
  | some s => if authority ≠ [] && s.accepts then some (cs.drop authority.length) else none
  | none => none

/-- Whether a scheme may hold a character. -/
def isSchemeChar (c : Char) : Bool := c.isAlphanum || "+-.~".toList.contains c

/-- The scheme of a whole URI and the text behind its `://`. -/
def cutScheme? (cs : List Char) : Option (List Char × List Char) :=
  let scheme := cs.takeWhile isSchemeChar
  (Text.after? "://".toList (cs.drop scheme.length)).map (scheme, ·)

/-- Reads a target. -/
def read? (text : String) : Option Target :=
  let cs := text.toList
  if (Utf8.encode text).length > maxLength then none
  else match cs with
    | [] => none
    | ['*'] => some ⟨"*", none⟩
    | '/' :: _ => readPath? cs
    | _ =>
      match cutScheme? cs with
      | some (scheme, rest) =>
        if scheme.length > maxScheme then none else (afterAuthority? rest).bind readPath?
      | none => if afterAuthority? cs = some [] then some ⟨"", none⟩ else none

end Target

end DownloadGateway.Http
