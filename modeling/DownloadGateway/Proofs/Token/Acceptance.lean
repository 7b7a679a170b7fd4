import DownloadGateway.Proofs.Token.Format
/-!
# Which texts are accepted as tokens

A text grants something if its four fields are what a holder of the secret may write (`Grants`).
Then the clock and the blob that is asked for decide, in this order; any other text is turned away in
one way, whatever is asked for and when (`grants_or_refused`). Nothing that the secret does not vouch
for has a say in how.
-/

namespace DownloadGateway.AccessToken

variable {secret : Bytes} {text : String} {token : AccessToken}

/-- Whether the last field of a text is the authentication code of what stands before it. -/
def IsSigned (secret : Bytes) (text : String) : Prop :=
  ∃ signed, text.toList =
    signed ++ '.' :: Base64.encodeUrl (Hmac.code secret (Utf8.encodeChars signed))

/-- What a text of four fields grants: to a user and for a blob, both in base64, until a second that
is written as a number, under the authentication code of these fields as they are written. -/
structure Grants (secret : Bytes) (text : String) (token : AccessToken) : Prop where
  fields : ∃ user blob expiry code, text.toList.splitOn '.' = [user, blob, expiry, code] ∧
    user = Base64.encodeUrl (Utf8.encode token.user) ∧
    blob = Base64.encodeUrl (Utf8.encode token.blobId.value) ∧
    Decimal.IsNumeral Decimal.max64 expiry token.expiresAt ∧
    code = Base64.encodeUrl token.signature ∧
    token.signature = Hmac.code secret (Utf8.encodeChars (user ++ '.' :: blob ++ '.' :: expiry))

/-- A text grants something exactly if it is signed, and what is signed can be read. -/
theorem grants_iff :
    Grants secret text token ↔
      ∃ signed, text.toList = signed ++ '.' :: Base64.encodeUrl (sign secret signed) ∧
        readSigned? signed = some (token.user, token.blobId, token.expiresAt) ∧
        token.signature = sign secret signed := by
  constructor
  · rintro ⟨_, _, expiry, _, hsplit, rfl, rfl, hexpiry, rfl, hsignature⟩
    have htext : ['.'].intercalate (text.toList.splitOn '.') = text.toList := List.intercalate_splitOn '.'
    rw [hsplit, hsignature] at htext
    refine ⟨_, ?_, readSigned?_eq_some_iff.2 ⟨expiry, rfl, Decimal.read?_eq_some_iff.2 hexpiry⟩, hsignature⟩
    rw [← htext]
    simp [List.intercalate, sign, textField]
  · rintro ⟨signed, htext, hread, hsignature⟩
    obtain ⟨expiry, rfl, hexpiry⟩ := readSigned?_eq_some_iff.1 hread
    have hdot : '.' ∉ expiry := Decimal.not_mem_of_read? hexpiry (by decide) (by decide)
    refine ⟨_, _, expiry, _, ?_, rfl, rfl, Decimal.read?_eq_some_iff.1 hexpiry, rfl, hsignature⟩
    rw [htext, hsignature]
    exact splitOn_four (dot_not_mem_textField _) (dot_not_mem_textField _) hdot (dot_not_mem_encodeUrl _)

theorem Grants.isSigned (h : Grants secret text token) : IsSigned secret text := by
  obtain ⟨signed, htext, -⟩ := grants_iff.1 h
  exact ⟨signed, htext⟩

theorem Grants.length_signature (h : Grants secret text token) : token.signature.length = 32 := by
  obtain ⟨signed, -, -, hsignature⟩ := grants_iff.1 h
  rw [hsignature]
  exact Hmac.length_code ..

/-- Only the clock and the blob that is asked for decide about a text that grants something. -/
theorem Grants.verify_eq (h : Grants secret text token) (now : Nat) (blobId : BlobId) :
    verify secret now text blobId =
      if now > token.expiresAt then .error .expired
      else if token.blobId ≠ blobId then .error .wrongBlob
      else .ok token := by
  obtain ⟨signed, htext, hread, hsignature⟩ := grants_iff.1 h
  rw [verify_of_signed htext hread, ← hsignature]

/-- A text grants something, or it is refused in one way. -/
theorem grants_or_refused (secret : Bytes) (text : String) :
    (∃ token, Grants secret text token) ∨
      ∃ e, (e = .malformed ∨ e = .badSignature) ∧ ∀ now blobId, verify secret now text blobId = .error e := by
  by_cases hgrants : ∃ token, Grants secret text token
  · exact .inl hgrants
  refine .inr ?_
  unfold verify
  -- The clock and the blob are not looked at before the last check but two.
  cases hcut : Text.cutLast? '.' text.toList with
  | none => exact ⟨.malformed, .inl rfl, fun _ _ => rfl⟩
  | some parts =>
    obtain ⟨signed, code⟩ := parts
    cases hcode : Base64.decode? code with
    | none => exact ⟨.malformed, .inl rfl, fun _ _ => by simp only [hcode]⟩
    | some signature =>
      by_cases hsign : sign secret signed = signature
      · cases hread : readSigned? signed with
        | none => exact ⟨.malformed, .inl rfl, fun _ _ => by simp [hcode, hsign, hread]⟩
        | some grant =>
          obtain ⟨user, blob, expiresAt⟩ := grant
          have htext : text.toList = signed ++ '.' :: Base64.encodeUrl (sign secret signed) := by
            rw [hsign, (Text.cutLast?_eq_some_iff.1 hcut).2, Base64.decode?_eq_some_iff.1 hcode]
          have hgrant : Grants secret text ⟨user, blob, expiresAt, signature⟩ :=
            grants_iff.2 ⟨signed, htext, hread, hsign.symm⟩
          exact absurd ⟨_, hgrant⟩ hgrants
      · exact ⟨.badSignature, .inr rfl, fun _ _ => by simp [hcode, hsign]⟩

/-- So a text that is refused in any other way grants something. -/
theorem exists_grants {now : Nat} {blobId : BlobId} {e : TokenError} (h : verify secret now text blobId = .error e)
    (hmalformed : e ≠ .malformed) (hsignature : e ≠ .badSignature) : ∃ token, Grants secret text token := by
  rcases grants_or_refused secret text with hgrants | ⟨e', he', hrefused⟩
  · exact hgrants
  · rw [hrefused] at h
    cases h
    exact (he'.elim hmalformed hsignature).elim

/-! ## Each outcome -/

theorem verify_eq_ok_iff_grants {now : Nat} {blobId : BlobId} :
    verify secret now text blobId = .ok token ↔
      Grants secret text token ∧ token.blobId = blobId ∧ now ≤ token.expiresAt := by
  rw [verify_eq_ok_iff, grants_iff]
  constructor
  · rintro ⟨signed, htext, hread, hnow, hblob, hsignature⟩
    exact ⟨⟨signed, htext, hread, hsignature⟩, hblob, hnow⟩
  · rintro ⟨⟨signed, htext, hread, hsignature⟩, hblob, hnow⟩
    exact ⟨signed, htext, hread, hnow, hblob, hsignature⟩

theorem verify_eq_expired_iff {now : Nat} {blobId : BlobId} :
    verify secret now text blobId = .error .expired ↔
      ∃ token, Grants secret text token ∧ token.expiresAt < now := by
  constructor
  · intro h
    obtain ⟨token, hgrants⟩ := exists_grants h (by simp) (by simp)
    refine ⟨token, hgrants, Decidable.byContradiction fun hnow => ?_⟩
    rw [hgrants.verify_eq, if_neg hnow] at h
    split at h <;> cases h
  · rintro ⟨token, hgrants, hnow⟩
    rw [hgrants.verify_eq, if_pos hnow]

theorem verify_eq_wrongBlob_iff {now : Nat} {blobId : BlobId} :
    verify secret now text blobId = .error .wrongBlob ↔
      ∃ token, Grants secret text token ∧ now ≤ token.expiresAt ∧ token.blobId ≠ blobId := by
  constructor
  · intro h
    obtain ⟨token, hgrants⟩ := exists_grants h (by simp) (by simp)
    rw [hgrants.verify_eq] at h
    split at h
    · cases h
    rename_i hnow
    split at h
    · rename_i hblob
      exact ⟨token, hgrants, Nat.le_of_not_lt hnow, hblob⟩
    · cases h
  · rintro ⟨token, hgrants, hnow, hblob⟩
    rw [hgrants.verify_eq, if_neg (Nat.not_lt.2 hnow), if_pos hblob]

theorem verify_ne_signing (secret : Bytes) (now : Nat) (text : String) (blobId : BlobId) (reason : String) :
    verify secret now text blobId ≠ .error (.signing reason) := by
  intro h
  obtain ⟨token, hgrants⟩ := exists_grants h (by simp) (by simp)
  rw [hgrants.verify_eq] at h
  split at h
  · cases h
  · split at h <;> cases h

theorem seconds_le_iff {clock : Int} {n : Nat} : TokenFactory.seconds clock ≤ n ↔ max clock 0 ≤ n := by
  unfold TokenFactory.seconds
  omega

theorem lt_seconds_iff {clock : Int} {n : Nat} : n < TokenFactory.seconds clock ↔ n < max clock 0 := by
  rw [← Nat.not_le, seconds_le_iff, Int.not_le]

/-- What becomes of a text that is presented as a token, whatever it is. (1) It is accepted exactly if
it grants a token that is for the blob asked for and good by the clock, and it is accepted as this
token, whose signature has 32 bytes; (2) a text that is not signed is refused in one of two ways,
which depends neither on the clock nor on the blob; (3) a text has expired exactly if it grants a
token that was good until an earlier second, whichever blob that is for, and (4) it is refused for its
blob exactly if it grants a token that is still good, for another one; (5) nothing is signed here; (6)
what is accepted now was accepted at any time before. -/
theorem accepted_iff_granted (factory : TokenFactory) (text : String) :
    (∀ clock blobId token, factory.verify clock text blobId = .ok token ↔
      Grants factory.secret text token ∧ token.signature.length = 32 ∧ token.blobId = blobId ∧
        max clock 0 ≤ token.expiresAt) ∧
    (¬IsSigned factory.secret text → ∃ e, (e = .malformed ∨ e = .badSignature) ∧
      ∀ clock blobId, factory.verify clock text blobId = .error e) ∧
    (∀ clock blobId, factory.verify clock text blobId = .error .expired ↔
      ∃ token, Grants factory.secret text token ∧ token.expiresAt < max clock 0) ∧
    (∀ clock blobId, factory.verify clock text blobId = .error .wrongBlob ↔
      ∃ token, Grants factory.secret text token ∧ max clock 0 ≤ token.expiresAt ∧ token.blobId ≠ blobId) ∧
    (∀ clock blobId reason, factory.verify clock text blobId ≠ .error (.signing reason)) ∧
    ∀ clock clock' blobId token, clock' ≤ clock → factory.verify clock text blobId = .ok token →
      factory.verify clock' text blobId = .ok token := by
  refine ⟨fun clock blobId token => ?_, fun hsigned => ?_, fun clock blobId => ?_, fun clock blobId => ?_,
    fun clock blobId => verify_ne_signing _ _ _ blobId, fun clock clock' blobId token hle h => ?_⟩
  · rw [TokenFactory.verify, verify_eq_ok_iff_grants, seconds_le_iff]
    constructor
    · rintro ⟨hgrants, hblob, hnow⟩
      exact ⟨hgrants, hgrants.length_signature, hblob, hnow⟩
    · rintro ⟨hgrants, -, hblob, hnow⟩
      exact ⟨hgrants, hblob, hnow⟩
  · rcases grants_or_refused factory.secret text with ⟨token, hgrants⟩ | ⟨e, he, hrefused⟩
    · exact absurd hgrants.isSigned hsigned
    · exact ⟨e, he, fun clock blobId => hrefused _ blobId⟩
  · simp only [TokenFactory.verify, verify_eq_expired_iff, lt_seconds_iff]
  · simp only [TokenFactory.verify, verify_eq_wrongBlob_iff, seconds_le_iff]
  · rw [TokenFactory.verify, verify_eq_ok_iff_grants, seconds_le_iff] at h ⊢
    obtain ⟨hgrants, hblob, hnow⟩ := h
    exact ⟨hgrants, hblob, by omega⟩

/-- An issued token is good before the epoch and up to its last second; behind that it has expired,
also where it never was of use. -/
theorem accepted_until_expiry :
    let factory : TokenFactory := ⟨[1], 300⟩
    let blobId : BlobId := ⟨"b", by decide⟩
    let other : BlobId := ⟨"c", by decide⟩
    let token := factory.issue 0 "alice" blobId
    Grants factory.secret token.serialize token ∧ factory.verify (-5) token.serialize blobId = .ok token ∧
      factory.verify 300 token.serialize other = .error .wrongBlob ∧
      factory.verify 301 token.serialize other = .error .expired := by
  intro factory blobId other token
  have hexpiry : token.expiresAt = 300 := by decide
  have hissued : factory.verify 0 token.serialize blobId = .ok token :=
    (verify_serialize_issue factory 0 "alice" blobId 0).trans (if_pos (Nat.zero_le _))
  obtain ⟨haccepted, -, hexpired, hwrong, -⟩ := accepted_iff_granted factory token.serialize
  obtain ⟨hgrants, hlength, hblob, -⟩ := (haccepted 0 blobId token).1 hissued
  refine ⟨hgrants, (haccepted (-5) blobId token).2 ⟨hgrants, hlength, hblob, ?_⟩,
    (hwrong 300 other).2 ⟨token, hgrants, ?_, ?_⟩, (hexpired 301 other).2 ⟨token, hgrants, ?_⟩⟩
  · rw [hexpiry]
    decide
  · rw [hexpiry]
    decide
  · rw [hblob]
    decide
  · rw [hexpiry]
    decide

end DownloadGateway.AccessToken
