import DownloadGateway.Gateway.Service
import DownloadGateway.Proofs.DownloadPath
import DownloadGateway.Proofs.Http
import DownloadGateway.Proofs.Token.Format
/-!
# Who a request comes from

The service tries API keys and then tokens. A request with an authorization field is
judged by that field alone; without one, only a token in the query of a `GET` can tell
who sent it.
-/

namespace DownloadGateway

/-! ## API keys -/

namespace ApiKey

/-- A request presents a key if its first authorization field holds it. -/
def Presents (request : Http.Request) (key : String) : Prop :=
  request.headers.get? "authorization" = some (Utf8.encode (scheme ++ key))

/-- A visible byte string is ASCII, so it holds no character of several bytes. -/
theorem lt_of_isVisible {c : Char} (h : Http.isVisible (Utf8.encodeChar c) = true) : c.toNat < 0x80 := by
  -- The first byte of any other character is above the visible ones.
  refine Nat.lt_of_not_le fun hc => ?_
  have hlt : c.toNat < 0x110000 := by
    have := Utf8.valid_toNat c
    omega
  unfold Utf8.encodeChar at h
  dsimp only at h
  rw [if_neg (Nat.not_lt.2 hc)] at h
  repeat' split at h
  all_goals
    simp only [Http.isVisible, List.all_cons, Bool.and_eq_true, Bool.or_eq_true, decide_eq_true_eq,
      beq_iff_eq, UInt8.toNat_ofNat'] at h
    omega

theorem visibleText_encodeChars {cs : List Char} (h : Http.isVisible (Utf8.encodeChars cs) = true) :
    visibleText (Utf8.encodeChars cs) = cs := by
  induction cs with
  | nil => rfl
  | cons c cs ih =>
    rw [Utf8.encodeChars_cons, Http.isVisible, List.all_append, Bool.and_eq_true] at h
    have hc : c.toNat < 0x80 := lt_of_isVisible h.1
    have hb : (UInt8.ofNat c.toNat).toNat = c.toNat :=
      UInt8.toNat_ofNat_of_lt' (show c.toNat < 256 by omega)
    have hi : visibleText (Utf8.encodeChars cs) = cs := ih h.2
    rw [visibleText] at hi ⊢
    simp [Utf8.encodeChar_of_lt hc, hb, hi]

/-- What is presented is read back, unless it is not ASCII. -/
theorem presented_encode (key : String) :
    presented (Utf8.encode (scheme ++ key)) =
      if Http.isVisible (Utf8.encode (scheme ++ key)) then .ok key else .error .headerNotAscii := by
  by_cases h : Http.isVisible (Utf8.encode (scheme ++ key)) = true
  · have ht : visibleText (Utf8.encode (scheme ++ key)) = scheme.toList ++ key.toList := by
      rw [Utf8.encode, visibleText_encodeChars h, String.toList_append]
    simp only [presented, h, if_true, ht, Text.after?_eq_some_iff.2 rfl, String.ofList_toList]
  · unfold presented
    rw [if_neg h, if_neg h]

variable {keys : List (String × String)} {request : Http.Request}

theorem outcome_eq_missing_iff :
    outcome keys request = .error .missing ↔ request.headers.get? "authorization" = none := by
  unfold outcome
  split
  · simp_all
  · rename_i value hv
    rw [hv]
    split
    · simp
    · split <;> simp

/-- A configured key is accepted wherever it is presented, or nowhere if it is not ASCII. -/
theorem outcome_of_presents {key user : String} (h : Presents request key) (hk : userOf? keys key = some user) :
    outcome keys request =
      if Http.isVisible (Utf8.encode (scheme ++ key)) then .ok ⟨user, .apiKey⟩
      else .error (.invalid .headerNotAscii) := by
  have hp := presented_encode key
  rw [outcome, h]
  by_cases hv : Http.isVisible (Utf8.encode (scheme ++ key)) = true
  · rw [if_pos hv] at hp ⊢
    simp only [hp, hk]
  · rw [if_neg hv] at hp ⊢
    simp only [hp]

theorem method_of_outcome {identity : Identity} (h : outcome keys request = .ok identity) :
    identity.method = .apiKey := by
  unfold outcome at h
  split at h
  · cases h
  · split at h
    · cases h
    · split at h
      · cases h; rfl
      · cases h

end ApiKey

/-! ## Tokens -/

namespace TokenQuery

variable {verify : String → BlobId → Except TokenError AccessToken} {request : Http.Request}

theorem presented_eq_ok_iff {text : String} :
    presented request = .ok text ↔
      request.method = "GET" ∧ Http.Form.valuesOf key (request.query.getD "") = [text] := by
  unfold presented
  split
  · simp_all
  · rename_i hm
    rw [Classical.not_not] at hm
    split <;> simp_all

theorem requested_eq_ok_iff {blobId : BlobId} :
    requested request = .ok blobId ↔ DownloadPath.IsPathOf request.path blobId.value := by
  rw [← DownloadPath.rawBlobId?_eq_some_iff, requested]
  cases hraw : DownloadPath.rawBlobId? request.path with
  | none => simp
  | some raw =>
    rw [Option.bind_some, Option.some.injEq]
    cases hid : BlobId.ofString? raw with
    | none =>
      simp only [reduceCtorEq, false_iff]
      rintro rfl
      rw [BlobId.ofString?_eq_some_iff.2 rfl] at hid
      cases hid
    | some id =>
      rw [BlobId.ofString?_eq_some_iff] at hid
      simp only [Except.ok.injEq, ← hid]
      constructor
      · rintro rfl; rfl
      · exact BlobId.ext

/-- The attempt on a request that presents a token for the blob of its path. -/
theorem authenticate_of_presented {text : String} {blobId : BlobId} (h : presented request = .ok text)
    (hb : requested request = .ok blobId) :
    (strategy verify).authenticate request =
      ⟨checked (verify text blobId), [.call (.verifyToken blobId)]⟩ := by
  simp only [strategy, Strategy.authenticate, h, hb]
  rfl

theorem calls_authenticate {call : Call}
    (h : call ∈ Event.calls ((strategy verify).authenticate request).events) :
    ∃ blobId, call = .verifyToken blobId := by
  cases hp : presented request with
  | error e => simp [strategy, Strategy.authenticate, hp] at h
  | ok text =>
    cases hb : requested request with
    | error e => simp [strategy, Strategy.authenticate, hp, hb] at h
    | ok blobId =>
      rw [authenticate_of_presented hp hb] at h
      exact ⟨blobId, by simpa using h⟩

theorem log_not_mem_authenticate (entry : LogEvent) :
    .log entry ∉ ((strategy verify).authenticate request).events := by
  cases hp : presented request with
  | error e => simp [strategy, Strategy.authenticate, hp]
  | ok text =>
    cases hb : requested request with
    | error e => simp [strategy, Strategy.authenticate, hp, hb]
    | ok blobId => simp [authenticate_of_presented hp hb]

/-- Whoever is known by a token asks by `GET` for the blob of the one token given. -/
theorem of_authenticate {identity : Identity}
    (h : ((strategy verify).authenticate request).value = .ok identity) :
    ∃ text blobId token, presented request = .ok text ∧ requested request = .ok blobId ∧
      verify text blobId = .ok token ∧ identity = ⟨token.user, .attachmentToken⟩ := by
  cases hp : presented request with
  | error e => simp [strategy, Strategy.authenticate, hp] at h
  | ok text =>
    cases hb : requested request with
    | error e => simp [strategy, Strategy.authenticate, hp, hb] at h
    | ok blobId =>
      rw [authenticate_of_presented hp hb] at h
      cases hv : verify text blobId with
      | error e => simp [checked, hv] at h
      | ok token =>
        simp only [checked, hv, Except.ok.injEq] at h
        exact ⟨text, blobId, token, rfl, rfl, hv, h.symm⟩

end TokenQuery

/-! ## The chain -/

namespace Service

variable {service : Service} {clock : Int} {request : Http.Request}

/-- An authorization field settles who asks, even if it is no good; the query is looked
at only without one. -/
theorem authenticate_eq :
    (service.strategy clock).authenticate request =
      if request.headers.get? "authorization" = none then
        (TokenQuery.strategy (service.tokens.verify clock)).authenticate request
      else pure (ApiKey.outcome service.apiKeys request) := by
  have hm : ApiKey.outcome service.apiKeys request = .error .missing ↔
      request.headers.get? "authorization" = none := ApiKey.outcome_eq_missing_iff
  rw [strategy, Strategy.authenticate, Strategy.firstOf, Strategy.firstOf]
  by_cases h : request.headers.get? "authorization" = none
  · rw [if_pos h]
    apply Traced.ext <;> simp only [ApiKey.strategy, Strategy.authenticate, Traced.value_bind, Traced.events_bind,
      Traced.value_pure, Traced.events_pure, hm.2 h] <;> split <;> simp_all [Strategy.firstOf]
  · rw [if_neg h]
    apply Traced.ext <;> simp only [ApiKey.strategy, Strategy.authenticate, Traced.value_bind, Traced.events_bind,
      Traced.value_pure, Traced.events_pure] <;> split <;> simp_all

theorem authenticate_of_presents {key : String} (h : ApiKey.Presents request key) :
    (service.strategy clock).authenticate request = pure (ApiKey.outcome service.apiKeys request) := by
  rw [authenticate_eq, if_neg]
  rw [h]
  exact Option.some_ne_none _

theorem calls_authenticate {call : Call}
    (h : call ∈ Event.calls ((service.strategy clock).authenticate request).events) :
    ∃ blobId, call = .verifyToken blobId := by
  rw [authenticate_eq] at h
  split at h
  · exact TokenQuery.calls_authenticate h
  · simp at h

/-- Authenticating leaves nothing in the log. -/
theorem log_not_mem_authenticate (entry : LogEvent) :
    .log entry ∉ ((service.strategy clock).authenticate request).events := by
  rw [authenticate_eq]
  split
  · exact TokenQuery.log_not_mem_authenticate entry
  · exact List.not_mem_nil

variable {identity : Identity}

/-- Whoever is known by a key said so in the headers. -/
theorem of_authenticate_key (h : ((service.strategy clock).authenticate request).value = .ok identity)
    (hm : identity.method = .apiKey) :
    request.headers.get? "authorization" ≠ none ∧
      ApiKey.outcome service.apiKeys request = .ok identity := by
  rw [authenticate_eq] at h
  split at h
  · obtain ⟨_, _, _, -, -, -, rfl⟩ := TokenQuery.of_authenticate h
    cases hm
  · exact ⟨‹_›, h⟩

/-- Whoever is known by a token showed nothing but one good token for the blob of the path. -/
theorem of_authenticate_token (h : ((service.strategy clock).authenticate request).value = .ok identity)
    (hm : identity.method = .attachmentToken) :
    request.method = "GET" ∧ request.headers.get? "authorization" = none ∧
      ∃ text blobId token, Http.Form.valuesOf TokenQuery.key (request.query.getD "") = [text] ∧
        DownloadPath.IsPathOf request.path blobId.value ∧
        service.tokens.verify clock text blobId = .ok token ∧ token.user = identity.user := by
  rw [authenticate_eq] at h
  split at h
  · rename_i hh
    obtain ⟨text, blobId, token, hp, hb, hv, rfl⟩ := TokenQuery.of_authenticate h
    obtain ⟨hget, hvalues⟩ := TokenQuery.presented_eq_ok_iff.1 hp
    exact ⟨hget, hh, text, blobId, token, hvalues, TokenQuery.requested_eq_ok_iff.1 hb, hv, rfl⟩
  · rw [ApiKey.method_of_outcome h] at hm
    cases hm

/-- An issued token that is presented for its blob tells its user, until it expires. -/
theorem authenticate_of_issued {issued : Int} {user : String} {blobId : BlobId}
    (hm : request.method = "GET") (hpath : DownloadPath.IsPathOf request.path blobId.value)
    (hquery : request.query = some ("access_token=" ++ (service.tokens.issue issued user blobId).serialize))
    (hheader : request.headers.get? "authorization" = none) :
    (service.strategy clock).authenticate request =
      ⟨if TokenFactory.seconds clock ≤ service.tokens.expiry issued then .ok ⟨user, .attachmentToken⟩
        else .error (.invalid (.token .expired)), [.call (.verifyToken blobId)]⟩ := by
  have hvalues : Http.Form.valuesOf TokenQuery.key (request.query.getD "") =
      [(service.tokens.issue issued user blobId).serialize] := by
    rw [hquery]
    exact Http.Form.valuesOf_pair (by simp [TokenQuery.key]) (AccessToken.not_mem_serialize _)
  rw [authenticate_eq, if_pos hheader, TokenQuery.authenticate_of_presented
    (TokenQuery.presented_eq_ok_iff.2 ⟨hm, hvalues⟩) (TokenQuery.requested_eq_ok_iff.2 hpath),
    TokenFactory.verify, AccessToken.verify_serialize_issue]
  split <;> rfl

end Service

end DownloadGateway
