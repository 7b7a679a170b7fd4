import DownloadGateway.Gateway.Download
import DownloadGateway.Proofs.Name.Disposition
import DownloadGateway.Proofs.Text.Decimal
/-!
# The headers of a download

Of the headers of a download only the content type can be one that cannot be sent: the length is
digits, and the disposition holds nothing but tabs and printable ASCII, whatever the name. So
whether a response can be built is decided by the blob alone, and a name can neither fail a
download nor get out of its quotes.
-/

namespace DownloadGateway.Gateway

variable {σ : Type}

/-! ## Values that can be sent -/

/-- A text of tabs and printable ASCII is sent as it is, byte by byte. -/
theorem of_mem_encode {s : String} (h : ∀ c ∈ s.toList, Disposition.isVerbatim c = true) {b : UInt8}
    (hb : b ∈ Utf8.encode s) : b = 0x09 ∨ 0x20 ≤ b.toNat ∧ b.toNat ≤ 0x7E := by
  obtain ⟨c, hc, hb⟩ := List.mem_flatMap.1 hb
  have hc := h c hc
  simp only [Disposition.isVerbatim, Bool.or_eq_true, beq_iff_eq, Bool.and_eq_true, decide_eq_true_eq] at hc
  rcases hc with rfl | hc
  · exact .inl (List.mem_singleton.1 hb)
  · rw [Utf8.encodeChar_of_lt (by omega)] at hb
    rw [List.mem_singleton.1 hb, UInt8.toNat_ofNat_of_lt' (show c.toNat < 256 by omega)]
    exact .inr hc

theorem isLegalValue_encode {s : String} (h : ∀ c ∈ s.toList, Disposition.isVerbatim c = true) :
    Http.isLegalValue (Utf8.encode s) = true := by
  refine List.all_eq_true.2 fun b hb => ?_
  rcases of_mem_encode h hb with rfl | hb
  · rfl
  · simp
    omega

theorem isLegalValue_attachment (name : String) : Http.isLegalValue (Utf8.encode (Disposition.attachment name)) = true :=
  isLegalValue_encode fun _ => Disposition.isVerbatim_of_mem_attachment

theorem isLegalValue_length (n : Nat) : Http.isLegalValue (Utf8.encode (toString n)) = true := by
  refine isLegalValue_encode fun c hc => ?_
  have hdigit : c.isDigit = true := Nat.isDigit_of_mem_toDigits (by decide) (by decide) (String.toList_ofList ▸ hc)
  have hc := Decimal.toNat_of_isDigit hdigit
  simp [Disposition.isVerbatim]
  omega

/-- The headers of a download can be sent if its content type can, whatever its name. -/
theorem all_isLegalValue_downloadHeaders (contentType : String) (size : Nat) (name : Option String) :
    (downloadHeaders contentType size name).all (Http.isLegalValue ·.2) =
      Http.isLegalValue (Utf8.encode contentType) := by
  have hdisposition : (name.map fun n => ("content-disposition", Utf8.encode (Disposition.attachment n))).toList.all
      (Http.isLegalValue ·.2) = true := by
    cases name with
    | none => rfl
    | some name => simp [isLegalValue_attachment]
  rw [downloadHeaders, List.all_append, hdisposition, List.all_cons, List.all_cons, isLegalValue_length]
  simp

/-! ## The response -/

theorem streamResponse_of_legal {contentType : String} (h : Http.isLegalValue (Utf8.encode contentType) = true)
    (name : Option String) (stream : BlobStream σ) :
    streamResponse contentType name stream =
      ⟨.ok ⟨200, downloadHeaders contentType stream.declared name, .stream chunkSize stream⟩, []⟩ := by
  rw [streamResponse, all_isLegalValue_downloadHeaders, if_pos h]
  rfl

theorem streamResponse_of_illegal {contentType : String} (h : Http.isLegalValue (Utf8.encode contentType) ≠ true)
    (name : Option String) (stream : BlobStream σ) :
    streamResponse contentType name stream = ⟨.error illegalContentType, stream.release false⟩ := by
  rw [streamResponse, all_isLegalValue_downloadHeaders, if_neg h]

/-- Whatever its name, the disposition of a download is tabs and printable ASCII, so it can be
sent, and a response under a name is built whenever the one without a name is. It is one
parameter whose quotes are closed by the last character of the value: no other quote behind the
opening one is unescaped. -/
theorem attachment_confined (name : String) :
    (∀ b ∈ Utf8.encode (Disposition.attachment name), b = 0x09 ∨ 0x20 ≤ b.toNat ∧ b.toNat ≤ 0x7E) ∧
    Http.isLegalValue (Utf8.encode (Disposition.attachment name)) = true ∧
    (∀ (σ : Type) (contentType : String) (stream : BlobStream σ),
      (streamResponse contentType (some name) stream).value.isOk = (streamResponse contentType none stream).value.isOk) ∧
    ∃ parameter inner, (parameter = "filename" ∨ parameter = "filename*") ∧
      Disposition.attachment name = "attachment; " ++ parameter ++ "=\"" ++ inner ++ "\"" ∧
      Disposition.unescapedQuotes 0 (Disposition.attachment name).toList =
        [("attachment; " ++ parameter ++ "=").length, (Disposition.attachment name).length - 1] := by
  refine ⟨fun b => of_mem_encode fun _ => Disposition.isVerbatim_of_mem_attachment, isLegalValue_attachment name,
    fun σ contentType stream => ?_, ?_⟩
  · by_cases hlegal : Http.isLegalValue (Utf8.encode contentType) = true
    · rw [streamResponse_of_legal hlegal, streamResponse_of_legal hlegal]
      rfl
    · rw [streamResponse_of_illegal hlegal, streamResponse_of_illegal hlegal]
  · obtain ⟨parameter, text, hparameter, -, heq⟩ := Disposition.attachment_eq_quoted name
    have hopening : ∀ c ∈ ("attachment; " ++ parameter ++ "=").toList, EncodedWord.isInert c = true :=
      List.all_eq_true.1 (by rcases hparameter with rfl | rfl <;> decide +kernel)
    refine ⟨parameter, _, hparameter, heq, ?_⟩
    have hlist : (Disposition.attachment name).toList =
        ("attachment; " ++ parameter ++ "=").toList ++ '"' :: Disposition.escape text ++ ['"'] := by
      rw [heq]
      simp
    have hlast : (Disposition.attachment name).length - 1 =
        (("attachment; " ++ parameter ++ "=").toList ++ '"' :: Disposition.escape text).length := by
      rw [← String.length_toList, hlist, List.length_append, List.length_singleton, Nat.add_sub_cancel]
    rw [hlast, hlist, ← String.length_toList, Disposition.unescapedQuotes_quoted hopening]

end DownloadGateway.Gateway
