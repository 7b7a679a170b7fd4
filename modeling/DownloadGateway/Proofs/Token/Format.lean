import DownloadGateway.AccessToken
import DownloadGateway.Proofs.Text.Base64
import DownloadGateway.Proofs.Text.Decimal
import DownloadGateway.Proofs.Text.Utf8
import Mathlib.Data.Set.Insert
/-!
# What an accepted token looks like

No field of a token holds a dot, so the fields can be told apart, and each but the
expiry has one spelling. `verify_eq_ok_iff` says which texts are accepted; that tokens
cannot be respelled follows from it.
-/

namespace DownloadGateway.AccessToken

/-! ## Fields -/

theorem dot_not_mem_encodeUrl (bs : Bytes) : '.' ∉ Base64.encodeUrl bs :=
  Base64.not_mem_encodeUrl (by decide) bs

theorem dot_not_mem_textField (s : String) : '.' ∉ textField s := dot_not_mem_encodeUrl _

theorem dot_not_mem_print (n : Nat) : '.' ∉ Decimal.print n := Decimal.not_mem_print (by decide) n

theorem readTextField?_eq_some_iff {cs : List Char} {s : String} :
    readTextField? cs = some s ↔ cs = textField s := by
  unfold readTextField? textField
  rw [Option.bind_eq_some_iff]
  constructor
  · rintro ⟨bs, hbs, hs⟩
    rw [Base64.decode?_eq_some_iff.1 hbs, Utf8.decode?_eq_some_iff.1 hs]
  · rintro rfl
    exact ⟨_, Base64.decode?_encodeUrl _, Utf8.decode?_encode s⟩

theorem textField_inj {s s' : String} : textField s = textField s' ↔ s = s' := by
  rw [textField, textField, Base64.encodeUrl_inj, Utf8.encode_inj]

/-- No character of a token means anything in a query. -/
theorem not_mem_serialize (t : AccessToken) : ∀ c ∈ ['%', '+', '&'], c ∉ t.serialize.toList := by
  have key : ∀ {c : Char}, c ≠ '.' → Base64.isUrlChar c = false → c.isDigit = false →
      c ∉ t.serialize.toList := by
    intro c hdot hurl hdigit
    simp [serialize, signedText, textField, Base64.not_mem_encodeUrl hurl, Decimal.not_mem_print hdigit, hdot]
  simpa using ⟨key (by decide) (by decide) (by decide), key (by decide) (by decide) (by decide),
    key (by decide) (by decide) (by decide)⟩

/-! ## The signed text -/

/-- Three fields without dots, cut apart again. -/
theorem splitOn_three {a b c : List Char} (ha : '.' ∉ a) (hb : '.' ∉ b) (hc : '.' ∉ c) :
    (a ++ '.' :: b ++ '.' :: c).splitOn '.' = [a, b, c] := by
  rw [List.append_assoc, List.cons_append, List.splitOn_append_cons_self_of_not_mem ha,
    List.splitOn_append_cons_self_of_not_mem hb, List.splitOn_eq_singleton hc]

theorem splitOn_four {a b c d : List Char} (ha : '.' ∉ a) (hb : '.' ∉ b) (hc : '.' ∉ c) (hd : '.' ∉ d) :
    (a ++ '.' :: b ++ '.' :: c ++ '.' :: d).splitOn '.' = [a, b, c, d] := by
  rw [List.append_assoc, List.append_assoc, List.cons_append, List.cons_append,
    List.splitOn_append_cons_self_of_not_mem ha, List.splitOn_append_cons_self_of_not_mem hb,
    List.splitOn_append_cons_self_of_not_mem hc, List.splitOn_eq_singleton hd]

theorem eq_of_splitOn_three {signed a b c : List Char} (h : signed.splitOn '.' = [a, b, c]) :
    signed = a ++ '.' :: b ++ '.' :: c := by
  have joined : ['.'].intercalate (signed.splitOn '.') = signed := List.intercalate_splitOn '.'
  rw [h] at joined
  simpa [List.intercalate] using joined.symm

/-- The signed texts that can be read: only the expiry may be spelled in several ways. -/
theorem readSigned?_eq_some_iff {signed : List Char} {user : String} {blobId : BlobId}
    {expiresAt : Nat} :
    readSigned? signed = some (user, blobId, expiresAt) ↔
      ∃ expiry, signed = textField user ++ '.' :: textField blobId.value ++ '.' :: expiry ∧
        Decimal.read? Decimal.max64 expiry = some expiresAt := by
  constructor
  · intro h
    unfold readSigned? at h
    split at h
    · rename_i a b c hs
      simp only [Option.bind_eq_bind, Option.bind_eq_some_iff] at h
      obtain ⟨u, hu, id, ⟨t, ht, hid⟩, e, he, h⟩ := h
      cases h
      refine ⟨c, ?_, he⟩
      rw [eq_of_splitOn_three hs, readTextField?_eq_some_iff.1 hu, readTextField?_eq_some_iff.1 ht,
        BlobId.ofString?_eq_some_iff.1 hid]
    · cases h
  · rintro ⟨expiry, rfl, he⟩
    have hdot : '.' ∉ expiry := Decimal.not_mem_of_read? he (by decide) (by decide)
    unfold readSigned?
    rw [splitOn_three (dot_not_mem_textField _) (dot_not_mem_textField _) hdot]
    simp [readTextField?_eq_some_iff.2 rfl, BlobId.ofString?_eq_some_iff.2 rfl, he]

theorem readSigned?_signedText (user : String) (blobId : BlobId) {expiresAt : Nat}
    (h : expiresAt ≤ Decimal.max64) :
    readSigned? (signedText user blobId expiresAt) = some (user, blobId, expiresAt) :=
  readSigned?_eq_some_iff.2 ⟨_, rfl, Decimal.read?_print h⟩

/-- The signed text determines what it grants. -/
theorem signedText_inj {user user' : String} {blobId blobId' : BlobId} {e e' : Nat} :
    signedText user blobId e = signedText user' blobId' e' ↔
      user = user' ∧ blobId = blobId' ∧ e = e' := by
  constructor
  · intro h
    have hs := congrArg (List.splitOn '.') h
    unfold signedText at hs
    rw [splitOn_three (dot_not_mem_textField _) (dot_not_mem_textField _) (dot_not_mem_print _),
      splitOn_three (dot_not_mem_textField _) (dot_not_mem_textField _) (dot_not_mem_print _)] at hs
    simp only [List.cons.injEq, and_true, textField_inj] at hs
    obtain ⟨hu, hb, he⟩ := hs
    refine ⟨hu, BlobId.ext hb, ?_⟩
    rw [← Nat.ofDigitChars_ten_toDigits (n := e), ← Nat.ofDigitChars_ten_toDigits (n := e')]
    exact congrArg (Nat.ofDigitChars 10 · 0) he
  · rintro ⟨rfl, rfl, rfl⟩
    rfl

/-! ## Accepted texts -/

/-- Once a text is signed and can be read, only the clock and the blob asked for matter. -/
theorem verify_of_signed {secret : Bytes} {text user : String} {signed : List Char} {blob : BlobId}
    {expiresAt : Nat} (htext : text.toList = signed ++ '.' :: Base64.encodeUrl (sign secret signed))
    (hread : readSigned? signed = some (user, blob, expiresAt)) (now : Nat) (blobId : BlobId) :
    verify secret now text blobId =
      if now > expiresAt then .error .expired
      else if blob ≠ blobId then .error .wrongBlob
      else .ok ⟨user, blob, expiresAt, sign secret signed⟩ := by
  have hcut : Text.cutLast? '.' text.toList = some (signed, Base64.encodeUrl (sign secret signed)) :=
    Text.cutLast?_eq_some_iff.2 ⟨dot_not_mem_encodeUrl _, htext⟩
  unfold verify
  simp only [hcut, Base64.decode?_encodeUrl, hread, ne_eq, not_true, if_false]

/-- A text is accepted exactly if its last field is the code of what stands before it, and
that reads as a grant for the blob which is still good. -/
theorem verify_eq_ok_iff {secret : Bytes} {now : Nat} {text : String} {blobId : BlobId}
    {token : AccessToken} :
    verify secret now text blobId = .ok token ↔
      ∃ signed, text.toList = signed ++ '.' :: Base64.encodeUrl (sign secret signed) ∧
        readSigned? signed = some (token.user, token.blobId, token.expiresAt) ∧
        now ≤ token.expiresAt ∧ token.blobId = blobId ∧ token.signature = sign secret signed := by
  constructor
  · intro h
    unfold verify at h
    -- One split for each guard; all but the last case end in an error.
    split at h
    · cases h
    rename_i signed code hcut
    split at h
    · cases h
    rename_i signature hcode
    split at h
    · cases h
    rename_i hsign
    split at h
    · cases h
    rename_i user blob expiresAt hread
    split at h
    · cases h
    rename_i hnow
    split at h
    · cases h
    rename_i hblob
    cases h
    obtain rfl : signature = sign secret signed := (Classical.not_not.1 hsign).symm
    refine ⟨signed, ?_, hread, Nat.le_of_not_lt hnow, Classical.not_not.1 hblob, rfl⟩
    rw [(Text.cutLast?_eq_some_iff.1 hcut).2, Base64.decode?_eq_some_iff.1 hcode]
  · rintro ⟨signed, htext, hread, hnow, rfl, hsign⟩
    rw [verify_of_signed htext hread, if_neg (Nat.not_lt.2 hnow), if_neg (by simp), ← hsign]

theorem toList_serialize_issue (factory : TokenFactory) (clock : Int) (user : String) (blobId : BlobId) :
    (factory.issue clock user blobId).serialize.toList =
      signedText user blobId (factory.expiry clock) ++
        '.' :: Base64.encodeUrl (sign factory.secret (signedText user blobId (factory.expiry clock))) :=
  String.toList_ofList

/-- What is issued is accepted for its blob until it expires, and never afterwards. -/
theorem verify_serialize_issue (factory : TokenFactory) (clock : Int) (user : String)
    (blobId : BlobId) (now : Nat) :
    verify factory.secret now (factory.issue clock user blobId).serialize blobId =
      if now ≤ factory.expiry clock then .ok (factory.issue clock user blobId) else .error .expired := by
  rw [verify_of_signed (toList_serialize_issue factory clock user blobId)
    (readSigned?_signedText user blobId (Nat.min_le_right ..))]
  by_cases h : now ≤ factory.expiry clock
  · rw [if_neg (Nat.not_lt.2 h), if_neg (by simp), if_pos h]
    rfl
  · rw [if_pos (Nat.not_le.1 h), if_neg h]

/-- The four fields of an accepted text; the third is its expiry. -/
theorem fields_of_verify {secret : Bytes} {now : Nat} {text : String} {blobId : BlobId}
    {token : AccessToken} (h : verify secret now text blobId = .ok token) :
    ∃ expiry, text.toList.splitOn '.' =
        [textField token.user, textField token.blobId.value, expiry, Base64.encodeUrl token.signature] ∧
      text.toList = textField token.user ++ '.' :: textField token.blobId.value ++ '.' :: expiry ++
        '.' :: Base64.encodeUrl token.signature ∧
      Decimal.read? Decimal.max64 expiry = some token.expiresAt := by
  obtain ⟨signed, htext, hread, -, -, hsign⟩ := verify_eq_ok_iff.1 h
  obtain ⟨expiry, rfl, he⟩ := readSigned?_eq_some_iff.1 hread
  rw [← hsign] at htext
  have hdot : '.' ∉ expiry := Decimal.not_mem_of_read? he (by decide) (by decide)
  refine ⟨expiry, ?_, htext, he⟩
  rw [htext, splitOn_four (dot_not_mem_textField _) (dot_not_mem_textField _) hdot
    (dot_not_mem_encodeUrl _)]

theorem serialize_eq_iff_of_fields {token : AccessToken} {text : String} {expiry : List Char}
    (h : text.toList = textField token.user ++ '.' :: textField token.blobId.value ++ '.' :: expiry ++
      '.' :: Base64.encodeUrl token.signature) :
    token.serialize = text ↔ expiry = Decimal.print token.expiresAt := by
  rw [← String.toList_inj, serialize, String.toList_ofList, signedText, h]
  simp [eq_comm]

/-! ## Main theorem -/

/-- Tokens cannot be respelled, and no two grants are signed alike: (1) a signed text
determines what it grants; (2) two accepted texts that agree up to the last dot are the
same; (3) writing an accepted token gives its text back exactly if the expiry was written
as the number is printed, without sign or leading zeros; (4) a text that is accepted, but
is none of the tokens issued, carries the code of a text that was never signed. -/
theorem tokens_not_malleable (factory : TokenFactory) :
    (∀ user user' blobId blobId' e e', signedText user blobId e = signedText user' blobId' e' →
      user = user' ∧ blobId = blobId' ∧ e = e') ∧
    (∀ clock clock' text text' blobId blobId' token token' signed code code',
      factory.verify clock text blobId = .ok token → factory.verify clock' text' blobId' = .ok token' →
      text.toList = signed ++ '.' :: code → '.' ∉ code →
      text'.toList = signed ++ '.' :: code' → '.' ∉ code' → text = text') ∧
    (∀ clock text blobId token, factory.verify clock text blobId = .ok token →
      ∃ expiry, (text.toList.splitOn '.')[2]? = some expiry ∧
        (token.serialize = text ↔ expiry = Decimal.print token.expiresAt) ∧
        (expiry = Decimal.print token.expiresAt ↔ Decimal.IsShortest expiry)) ∧
    (∀ issued : Set AccessToken,
      (∀ t ∈ issued, ∃ clock user blobId, t = factory.issue clock user blobId) →
      ∀ clock text blobId token, factory.verify clock text blobId = .ok token →
        (∀ t ∈ issued, t.serialize ≠ text) →
        ∃ signed, text.toList = signed ++ '.' :: Base64.encodeUrl (sign factory.secret signed) ∧
          ∀ t ∈ issued, signedText t.user t.blobId t.expiresAt ≠ signed) := by
  refine ⟨fun _ _ _ _ _ _ => signedText_inj.1, ?_, ?_, ?_⟩
  · intro clock clock' text text' blobId blobId' token token' signed code code' h h' ht hc ht' hc'
    have last : ∀ {now : Nat} {text : String} {blobId : BlobId} {token : AccessToken} {code : List Char},
        verify factory.secret now text blobId = .ok token → text.toList = signed ++ '.' :: code →
        '.' ∉ code → text.toList = signed ++ '.' :: Base64.encodeUrl (sign factory.secret signed) := by
      intro now text blobId token code h ht hc
      obtain ⟨signed', htext, -⟩ := verify_eq_ok_iff.1 h
      have e := (Text.cutLast?_eq_some_iff.2 ⟨hc, ht⟩).symm.trans
        (Text.cutLast?_eq_some_iff.2 ⟨dot_not_mem_encodeUrl _, htext⟩)
      cases e
      exact htext
    rw [← String.toList_inj, last h ht hc, last h' ht' hc']
  · intro clock text blobId token h
    obtain ⟨expiry, hsplit, htext, he⟩ := fields_of_verify h
    exact ⟨expiry, by rw [hsplit]; rfl, serialize_eq_iff_of_fields htext,
      Decimal.eq_print_iff_of_read? he⟩
  · intro issued hissued clock text blobId token h hne
    obtain ⟨signed, htext, -⟩ := verify_eq_ok_iff.1 h
    refine ⟨signed, htext, ?_⟩
    rintro t ht rfl
    obtain ⟨clock', user', blobId', rfl⟩ := hissued t ht
    -- An issued token is written as what it signs, a dot and the code of it.
    refine hne _ ht ?_
    rw [← String.toList_inj, htext, toList_serialize_issue]
    rfl

/-- A holder of the secret may sign an expiry with a plus in front: it is accepted, but it
is neither written back so nor something the factory signs. -/
theorem signed_plus_is_foreign :
    let factory : TokenFactory := ⟨[1], 300⟩
    let blobId : BlobId := ⟨"b", by decide⟩
    let signed := textField "alice" ++ '.' :: textField "b" ++ '.' :: ['+', '3', '0', '0']
    let text := String.ofList (signed ++ '.' :: Base64.encodeUrl (sign factory.secret signed))
    ∃ token, factory.verify 0 text blobId = .ok token ∧ token.serialize ≠ text ∧
      ∃ signed', text.toList = signed' ++ '.' :: Base64.encodeUrl (sign factory.secret signed') ∧
        signedText "alice" blobId 300 ≠ signed' := by
  intro factory blobId signed text
  have htext : text.toList = signed ++ '.' :: Base64.encodeUrl (sign factory.secret signed) :=
    String.toList_ofList
  have hread : readSigned? signed = some ("alice", blobId, 300) :=
    readSigned?_eq_some_iff.2 ⟨_, rfl, by decide⟩
  have h : factory.verify 0 text blobId = .ok ⟨"alice", blobId, 300, sign factory.secret signed⟩ :=
    verify_eq_ok_iff.2 ⟨signed, htext, hread, Nat.zero_le _, rfl, rfl⟩
  obtain ⟨-, -, respelled, foreign⟩ := tokens_not_malleable factory
  have hne : (⟨"alice", blobId, 300, sign factory.secret signed⟩ : AccessToken).serialize ≠ text := by
    obtain ⟨expiry, hsplit, hser, hshort⟩ := respelled 0 text blobId _ h
    have he : expiry = ['+', '3', '0', '0'] := by
      rw [htext, splitOn_four (dot_not_mem_textField _) (dot_not_mem_textField _) (by decide)
        (dot_not_mem_encodeUrl _)] at hsplit
      exact (Option.some.inj hsplit).symm
    rw [Ne, hser, hshort, he]
    exact fun hs => hs.1 rfl
  have hother : (factory.issue 0 "alice" blobId).serialize ≠ text := by
    intro e
    -- The issued token is accepted as itself, so it would be the one accepted here.
    have hissued := verify_serialize_issue factory 0 "alice" blobId 0
    rw [e, if_pos (Nat.zero_le _)] at hissued
    rw [Except.ok.inj (h.symm.trans hissued)] at hne
    exact hne e
  obtain ⟨signed', hsigned', hfresh⟩ := foreign {factory.issue 0 "alice" blobId}
    (fun t ht => ⟨0, "alice", blobId, ht⟩) 0 text blobId _ h (fun t ht => ht ▸ hother)
  have hexpiry : factory.expiry 0 = 300 := by decide
  have hfresh' : signedText "alice" blobId (factory.expiry 0) ≠ signed' :=
    hfresh (factory.issue 0 "alice" blobId) (Set.mem_singleton _)
  rw [hexpiry] at hfresh'
  exact ⟨_, h, hne, signed', hsigned', hfresh'⟩

end DownloadGateway.AccessToken
