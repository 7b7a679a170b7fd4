import DownloadGateway.Name.EncodedWord
/-!
# The disposition of a named download

A name of printable ASCII and tabs goes verbatim into a quoted `filename`; any
other goes into `filename*` as encoded words. Either way the value holds nothing
that a header cannot hold.
-/

namespace DownloadGateway.Disposition

/-- Whether a quoted parameter can hold a character as it is. -/
def isVerbatim (c : Char) : Bool :=
  c == '\t' || (0x20 ≤ c.toNat && c.toNat ≤ 0x7E)

/-- A text with a backslash before each quote and backslash. -/
def escape (cs : List Char) : List Char :=
  cs.flatMap fun c => if c = '"' ∨ c = '\\' then ['\\', c] else [c]

/-- The value of the header for an attachment of the given name. -/
def attachment (name : String) : String :=
  if name.toList.all isVerbatim then
    "attachment; filename=\"" ++ String.ofList (escape name.toList) ++ "\""
  else
    "attachment; filename*=\"" ++ EncodedWord.encode name ++ "\""

end DownloadGateway.Disposition
