import DownloadGateway.Proofs.Authentication
/-!
# The outcomes of an authentication

A request is known by a key, or by a token, or it carries nothing to know it by. Each of the three is
said of the request alone: of its first authorization field, and without one of its method, its path
and its query. The service tells them apart as they are said here, and rejects whatever is none of
them.
-/

namespace DownloadGateway

/-! ## API keys -/

theorem Http.isVisible_iff {value : Bytes} :
    Http.isVisible value = true ↔ ∀ b ∈ value, b = 0x09 ∨ 0x20 ≤ b.toNat ∧ b.toNat ≤ 0x7E := by
  simp only [Http.isVisible, List.all_eq_true, Bool.or_eq_true, Bool.and_eq_true, decide_eq_true_eq, beq_iff_eq]
  refine forall₂_congr fun b _ => ?_
  rw [← UInt8.toNat_inj (b := 0x09), or_comm, Nat.lt_succ_iff]
  rfl

namespace ApiKey

variable {keys : List (String × String)} {request : Http.Request} {value : Bytes} {key user : String}

/-- A request is known by a key if its first authorization field is plain text, the scheme and then
the key, and the first pair with this key is the user's. -/
def Knows (keys : List (String × String)) (request : Http.Request) (user : String) : Prop :=
  ∃ value key, request.headers.get? "authorization" = some value ∧
    (∀ b ∈ value, b = 0x09 ∨ 0x20 ≤ b.toNat ∧ b.toNat ≤ 0x7E) ∧ value = Utf8.encode ("Bearer " ++ key) ∧
    ∃ before after, keys = before ++ (user, key) :: after ∧ ∀ pair ∈ before, pair.2 ≠ key

/-- Plain text is ASCII, so its bytes are its characters. -/
theorem encodeChars_visibleText (h : Http.isVisible value = true) : Utf8.encodeChars (visibleText value) = value := by
  induction value with
  | nil => rfl
  | cons b value ih =>
    rw [Http.isVisible, List.all_cons, Bool.and_eq_true] at h
    have hb : b.toNat < 0x80 := by
      have hb := h.1
      simp only [Bool.or_eq_true, Bool.and_eq_true, decide_eq_true_eq, beq_iff_eq] at hb
      omega
    have hc : (Char.ofNat b.toNat).toNat = b.toNat := Utf8.toNat_ofNat_of_valid (by omega)
    have hi : Utf8.encodeChars (visibleText value) = value := ih h.2
    rw [visibleText, List.map_cons, Utf8.encodeChars_cons, Utf8.encodeChar_of_lt (by omega), hc, UInt8.ofNat_toNat]
    exact congrArg (b :: ·) hi

theorem presented_eq_ok_iff :
    presented value = .ok key ↔ Http.isVisible value = true ∧ value = Utf8.encode (scheme ++ key) := by
  constructor
  · intro h
    unfold presented at h
    split at h
    · rename_i hvisible
      split at h
      · rename_i rest hafter
        cases h
        refine ⟨hvisible, ?_⟩
        rw [← encodeChars_visibleText hvisible, Text.after?_eq_some_iff.1 hafter, Utf8.encode, String.toList_append,
          String.toList_ofList]
      · cases h
    · cases h
  · rintro ⟨hvisible, rfl⟩
    rw [presented_encode, if_pos hvisible]

theorem userOf?_eq_some_iff :
    userOf? keys key = some user ↔
      ∃ before after, keys = before ++ (user, key) :: after ∧ ∀ pair ∈ before, pair.2 ≠ key := by
  rw [userOf?, Option.map_eq_some_iff]
  constructor
  · rintro ⟨pair, hfind, rfl⟩
    obtain ⟨hkey, before, after, hkeys, hbefore⟩ := List.find?_eq_some_iff_append.1 hfind
    obtain rfl : pair.2 = key := by simpa using hkey
    exact ⟨before, after, hkeys, by simpa using hbefore⟩
  · rintro ⟨before, after, hkeys, hbefore⟩
    exact ⟨(user, key), List.find?_eq_some_iff_append.2 ⟨by simp, before, after, hkeys, by simpa using hbefore⟩, rfl⟩

theorem outcome_eq_ok_iff : outcome keys request = .ok ⟨user, .apiKey⟩ ↔ Knows keys request user := by
  constructor
  · intro h
    unfold outcome at h
    split at h
    · cases h
    rename_i value hvalue
    split at h
    · cases h
    rename_i key hkey
    split at h
    · rename_i found huser
      cases h
      obtain ⟨hvisible, heq⟩ := presented_eq_ok_iff.1 hkey
      exact ⟨value, key, hvalue, Http.isVisible_iff.1 hvisible, heq, userOf?_eq_some_iff.1 huser⟩
    · cases h
  · rintro ⟨value, key, hvalue, hvisible, heq, hfirst⟩
    have hkey : presented value = .ok key := presented_eq_ok_iff.2 ⟨Http.isVisible_iff.2 hvisible, heq⟩
    simp only [outcome, hvalue, hkey, userOf?_eq_some_iff.2 hfirst]

end ApiKey

/-! ## Tokens -/

namespace TokenQuery

variable {verify : String → BlobId → Except TokenError AccessToken} {request : Http.Request} {user : String}

/-- A request is known by a token if it is a `GET` on a download path whose query gives one token,
which is good for the blob of the path and was made for the user. -/
def Knows (verify : String → BlobId → Except TokenError AccessToken) (request : Http.Request) (user : String) : Prop :=
  request.method = "GET" ∧ ∃ blobId text token, DownloadPath.IsPathOf request.path blobId.value ∧
    Http.Form.valuesOf "access_token" (request.query.getD "") = [text] ∧ verify text blobId = .ok token ∧
    token.user = user

theorem authenticate_eq_ok_iff :
    ((strategy verify).authenticate request).value = .ok ⟨user, .attachmentToken⟩ ↔ Knows verify request user := by
  constructor
  · intro h
    obtain ⟨text, blobId, token, hp, hb, hv, hidentity⟩ := of_authenticate h
    obtain ⟨hget, hvalues⟩ := presented_eq_ok_iff.1 hp
    exact ⟨hget, blobId, text, token, requested_eq_ok_iff.1 hb, hvalues, hv, (Identity.mk.inj hidentity).1.symm⟩
  · rintro ⟨hget, blobId, text, token, hpath, hvalues, hv, rfl⟩
    rw [authenticate_of_presented (presented_eq_ok_iff.2 ⟨hget, hvalues⟩) (requested_eq_ok_iff.2 hpath), hv]
    rfl

theorem presented_eq_missing_iff :
    presented request = .error .missing ↔
      request.method ≠ "GET" ∨ Http.Form.valuesOf "access_token" (request.query.getD "") = [] := by
  unfold presented
  split
  · simp_all
  · rename_i hm
    rw [Classical.not_not] at hm
    split <;> simp_all [key]

/-- Nothing is missing once a token was presented: it is good or it is rejected. -/
theorem authenticate_eq_missing_iff :
    ((strategy verify).authenticate request).value = .error .missing ↔
      request.method ≠ "GET" ∨ Http.Form.valuesOf "access_token" (request.query.getD "") = [] := by
  rw [← presented_eq_missing_iff]
  cases hp : presented request with
  | error e => simp [strategy, Strategy.authenticate, hp]
  | ok text =>
    refine iff_of_false ?_ (by simp)
    cases hb : requested request with
    | error e =>
      have hinvalid : e ≠ .missing := by
        rintro rfl
        unfold requested at hb
        split at hb <;> cases hb
      simpa [strategy, Strategy.authenticate, hp, hb] using hinvalid
    | ok blobId =>
      rw [authenticate_of_presented hp hb]
      cases hv : verify text blobId <;> simp [checked]

end TokenQuery

/-! ## The service -/

namespace Service

/-- A request carries nothing to know it by if it has no authorization field, and is no `GET` or has
no token in its query. -/
def CarriesNothing (request : Http.Request) : Prop :=
  request.headers.get? "authorization" = none ∧
    (request.method ≠ "GET" ∨ Http.Form.valuesOf "access_token" (request.query.getD "") = [])

/-- Whatever the keys, the secret and the moment, a service accepts a request as (1) a user with a
key exactly if it is known by the key, (2) a user with a token exactly if it has no authorization
field and is known by the token. (3) It misses a credential exactly if there is nothing to know the
request by, and (4) it rejects what is none of the three. (5) With an authorization field, be it
malformed, no token is looked at. -/
theorem accepts_iff_known (keys : List (String × String)) (tokens : TokenFactory) (origins : List String)
    (clock : Int) (request : Http.Request) :
    let service := (assemble keys tokens origins).value
    let answer := (service.strategy clock).authenticate request
    let byToken := fun user =>
      request.headers.get? "authorization" = none ∧ TokenQuery.Knows (tokens.verify clock) request user
    (∀ user, answer.value = .ok ⟨user, .apiKey⟩ ↔ ApiKey.Knows keys request user) ∧
    (∀ user, answer.value = .ok ⟨user, .attachmentToken⟩ ↔ byToken user) ∧
    (answer.value = .error .missing ↔ CarriesNothing request) ∧
    ((∃ rejection, answer.value = .error (.invalid rejection)) ↔
      (∀ user, ¬ApiKey.Knows keys request user) ∧ (∀ user, ¬byToken user) ∧ ¬CarriesNothing request) ∧
    (request.headers.get? "authorization" ≠ none →
      answer.events = [] ∧ ∀ user, answer.value ≠ .ok ⟨user, .attachmentToken⟩) := by
  intro service answer byToken
  have hanswer : answer = _ := authenticate_eq
  have hkey : ∀ user, answer.value = .ok ⟨user, .apiKey⟩ ↔ ApiKey.Knows keys request user := by
    intro user
    rw [← ApiKey.outcome_eq_ok_iff, hanswer]
    split
    · rename_i hnone
      refine iff_of_false (fun h => ?_) (fun h => ?_)
      · obtain ⟨_, _, _, -, -, -, hidentity⟩ := TokenQuery.of_authenticate h
        cases hidentity
      · rw [ApiKey.outcome_eq_missing_iff.2 hnone] at h
        cases h
    · rfl
  have htoken : ∀ user, answer.value = .ok ⟨user, .attachmentToken⟩ ↔ byToken user := by
    intro user
    rw [hanswer]
    split
    · rename_i hnone
      exact TokenQuery.authenticate_eq_ok_iff.trans (and_iff_right hnone).symm
    · rename_i hsome
      refine iff_of_false (fun h => ?_) (fun h => hsome h.1)
      cases ApiKey.method_of_outcome h
  have hmissing : answer.value = .error .missing ↔ CarriesNothing request := by
    rw [hanswer]
    split
    · rename_i hnone
      exact TokenQuery.authenticate_eq_missing_iff.trans (and_iff_right hnone).symm
    · rename_i hsome
      exact iff_of_false (fun h => hsome (ApiKey.outcome_eq_missing_iff.1 h)) (fun h => hsome h.1)
  refine ⟨hkey, htoken, hmissing, ?_, fun hsome => ⟨?_, fun user h => hsome ((htoken user).1 h).1⟩⟩
  · simp only [← hkey, ← htoken, ← hmissing]
    rcases answer.value with (_ | rejection) | ⟨user, _ | _⟩ <;> simp
  · rw [hanswer, if_neg hsome]
    rfl

end Service

end DownloadGateway
