import DownloadGateway.Text.Cut
import DownloadGateway.Text.Percent
/-!
# Form queries

A query is a list of pairs, separated by `&` and each cut at its first `=`. A pair
without `=` has an empty value; empty pieces are skipped.
-/

namespace DownloadGateway.Http.Form

/-- The text of a key or a value. -/
def decode (cs : List Char) : String := Utf8.decodeLossy (Percent.lenient cs)

/-- One pair of a query. -/
def pair (piece : List Char) : String × String :=
  match Text.cut? '=' piece with
  | some (key, value) => (decode key, decode value)
  | none => (decode piece, "")

/-- The pairs of a query, in order. -/
def pairs (query : String) : List (String × String) :=
  ((query.toList.splitOn '&').filter (· ≠ [])).map pair

/-- The values of a key, in order. -/
def valuesOf (key query : String) : List String :=
  ((pairs query).filter (·.1 = key)).map (·.2)

end DownloadGateway.Http.Form
