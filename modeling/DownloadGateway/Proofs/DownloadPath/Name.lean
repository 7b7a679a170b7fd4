import DownloadGateway.DownloadPath
import DownloadGateway.Proofs.Text.Percent
/-!
# Names in download paths

A name is decoded in passes: one refuses wrong escapes, one turns `+` into spaces, one puts
in the bytes of the escapes, and what comes of it has to be UTF-8. Together they read the
text once from left to right. So the texts that decode to a name are the ways to write it,
whatever that name holds, and nothing is decoded twice.
-/

namespace DownloadGateway.DownloadPath

open Percent (WellEscaped lenient Reads Spells)

variable {raw name : String} {failure : Failure}

section MapError

variable {ε ε' α : Type} {x : Except ε α} {f : ε → ε'} {a : α} {e : ε'}

theorem mapError_eq_ok_iff : x.mapError f = .ok a ↔ x = .ok a := by
  cases x with
  | error fault => exact ⟨nofun, nofun⟩
  | ok b =>
    constructor
    · rintro ⟨⟩
      rfl
    · rintro ⟨⟩
      rfl

theorem mapError_eq_error_iff : x.mapError f = .error e ↔ ∃ fault, x = .error fault ∧ e = f fault := by
  cases x with
  | error fault =>
    constructor
    · rintro ⟨⟩
      exact ⟨fault, rfl, rfl⟩
    · rintro ⟨_, ⟨⟩, rfl⟩
      rfl
  | ok b => exact ⟨nofun, nofun⟩

end MapError

theorem decodeName_of_malformed (h : ¬WellEscaped raw.toList) :
    decodeName raw = .error (.badRequest wrongEncoding []) := by
  have hmalformed : Percent.malformed (Utf8.encode raw) = true := by
    rw [← Bool.not_eq_false]
    exact fun hno => h (Percent.malformed_eq_false_iff.1 hno)
  rw [decodeName, if_pos hmalformed]

/-- Where every escape is right, all passes come to a single one. -/
theorem decodeName_of_wellEscaped (h : WellEscaped raw.toList) :
    decodeName raw =
      (Utf8.decode (lenient raw.toList)).mapError fun fault => .badRequest wrongEncoding [fault.message] := by
  have hmalformed : Percent.malformed (Utf8.encode raw) = false := Percent.malformed_eq_false_iff.2 h
  rw [decodeName, hmalformed, if_neg Bool.false_ne_true, h.reads.unescape_eq]
  cases Utf8.decode (lenient raw.toList) <;> rfl

theorem decodeName_eq_ok_iff : decodeName raw = .ok name ↔ Reads raw.toList (Utf8.encode name) := by
  rw [Percent.reads_iff]
  by_cases h : WellEscaped raw.toList
  · rw [decodeName_of_wellEscaped h, mapError_eq_ok_iff, Utf8.decode_eq_ok_iff]
    exact ⟨fun hok => ⟨h, hok⟩, And.right⟩
  · rw [decodeName_of_malformed h]
    simp [h]

theorem decodeName_eq_error_iff :
    decodeName raw = .error failure ↔
      (¬WellEscaped raw.toList ∧ failure = .badRequest wrongEncoding []) ∨
        (WellEscaped raw.toList ∧ ∃ fault, Utf8.decode (lenient raw.toList) = .error fault ∧
          failure = .badRequest wrongEncoding [fault.message]) := by
  by_cases h : WellEscaped raw.toList
  · rw [decodeName_of_wellEscaped h, mapError_eq_error_iff]
    simp [h]
  · rw [decodeName_of_malformed h]
    simp [h, eq_comm]

/-- A name decodes exactly if every `%` starts an escape and the bytes of a single pass are
UTF-8, and then it is the text with these bytes. The failure for any other is the same but
for its cause, which is that of UTF-8 unless an escape was wrong. So a name is found again
in all the ways to write it, and in nothing else. -/
theorem names_decode_exactly (raw : String) :
    (∀ name, decodeName raw = .ok name ↔
      WellEscaped raw.toList ∧ lenient raw.toList = Utf8.encode name) ∧
    (∀ failure, decodeName raw = .error failure ↔
      (¬WellEscaped raw.toList ∧ failure = .badRequest "Wrong url encoding" []) ∨
        (WellEscaped raw.toList ∧ ∃ fault, Utf8.decode (lenient raw.toList) = .error fault ∧
          failure = .badRequest "Wrong url encoding" [fault.message])) ∧
    ∀ name, decodeName raw = .ok name ↔ Spells name.toList raw.toList := by
  refine ⟨fun name => ?_, fun failure => decodeName_eq_error_iff, fun name => ?_⟩
  · rw [decodeName_eq_ok_iff, Percent.reads_iff]
  · rw [decodeName_eq_ok_iff, Utf8.encode, Percent.reads_encodeChars_iff]

example : (decodeName "a+b%2Bc%2541").toOption = some "a b+c%41" := by decide +kernel

end DownloadGateway.DownloadPath
