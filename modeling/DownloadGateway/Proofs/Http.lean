import DownloadGateway.Http.Form
import DownloadGateway.Http.Request
import DownloadGateway.Proofs.Text.Percent
/-!
# What a request carries

A pair of plain characters is read from a query as it was written, and requests may be
compared apart from the credentials in their headers.
-/

namespace DownloadGateway

/-! ## Plain text in a query -/

namespace Http.Form

theorem decode_of_plain {cs : List Char} (h : '%' ∉ cs) (hplus : '+' ∉ cs) :
    decode cs = String.ofList cs := by
  rw [decode, Percent.lenient_of_plain h hplus, Utf8.decodeLossy, Utf8.decodeLossyChars_encodeChars]

/-- A query of one pair in plain characters has that pair and no other. -/
theorem valuesOf_pair {key value : String} (hkey : ∀ c ∈ ['%', '+', '&', '='], c ∉ key.toList)
    (hvalue : ∀ c ∈ ['%', '+', '&'], c ∉ value.toList) :
    valuesOf key (key ++ "=" ++ value) = [value] := by
  have hpiece : (key ++ "=" ++ value).toList = key.toList ++ '=' :: value.toList := by simp
  have hamp : '&' ∉ key.toList ++ '=' :: value.toList := by
    simpa [List.mem_append] using ⟨hkey '&' (by simp), hvalue '&' (by simp)⟩
  have hcut : Text.cut? '=' (key.toList ++ '=' :: value.toList) = some (key.toList, value.toList) :=
    Text.cut?_eq_some_iff.2 ⟨hkey '=' (by simp), rfl⟩
  have hpairs : pairs (key ++ "=" ++ value) = [(key, value)] := by
    rw [pairs, hpiece, List.splitOn_eq_singleton hamp]
    simp [pair, hcut, decode_of_plain (hkey '%' (by simp)) (hkey '+' (by simp)),
      decode_of_plain (hvalue '%' (by simp)) (hvalue '+' (by simp))]
  simp [valuesOf, hpairs]

end Http.Form

/-! ## Credentials -/

namespace Http

theorem Headers.get?_eq_head? (hs : Headers) (name : String) : hs.get? name = (hs.values name).head? := by
  rw [get?, values, List.head?_map, List.head?_filter]

theorem Headers.get?_filter_ne {hs : Headers} {name other : String} (h : other ≠ name) :
    Headers.get? (hs.filter (·.1 ≠ name)) other = hs.get? other := by
  rw [Headers.get?, Headers.get?, List.find?_filter]
  refine congrArg (Option.map _) (congrArg (List.find? · hs) (funext fun field => ?_))
  by_cases hf : field.1 = other <;> simp [hf, h]

/-- Two requests for the same thing, which may differ in who asks for it: in their
authorization fields and in their queries. -/
structure Request.SameButCredentials (r r' : Request) : Prop where
  method : r.method = r'.method
  path : r.path = r'.path
  headers : r.headers.filter (·.1 ≠ "authorization") = r'.headers.filter (·.1 ≠ "authorization")

theorem Request.SameButCredentials.get?_eq {r r' : Request} (h : r.SameButCredentials r')
    {name : String} (hn : name ≠ "authorization") : r.headers.get? name = r'.headers.get? name := by
  rw [← Headers.get?_filter_ne hn, h.headers, Headers.get?_filter_ne hn]

end Http

end DownloadGateway
