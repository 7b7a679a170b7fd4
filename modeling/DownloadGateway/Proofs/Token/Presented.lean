import DownloadGateway.Proofs.Authentication
import DownloadGateway.Proofs.Gateway.Events
/-!
# What an issued token is good for

Until it expires, a token that was issued for a user and a blob does for downloads of this
blob what the user's key does, whatever has become of the store in between. After that it
is turned away before the store is asked.
-/

namespace DownloadGateway.Gateway

variable {σ : Type} {c : Collaborators σ} {service : Service} {clock : Int} {request post : Http.Request}
  {user key text : String} {blobId : BlobId}

/-! ## Issuing -/

theorem status_responseOf {outcome : Except Failure (Http.Response σ)} (h : (responseOf outcome).status = 200) :
    ∃ response, outcome = .ok response := by
  cases outcome with
  | ok response => exact ⟨response, rfl⟩
  | error f => exact absurd ((Http.Response.status_ofFailure f).symm.trans h) f.status_ne_ok

/-- A token request is answered well only with a token for the one who was authenticated,
for the blob of the path. -/
theorem of_issueToken (h : (issueToken c request).value.status = 200) :
    ∃ identity blobId token, (c.authenticate request).value = .ok identity ∧
      DownloadPath.IsPathOf request.path blobId.value ∧ c.generate identity.user blobId = .ok token ∧
      (issueToken c request).value = tokenResponse token := by
  cases ha : (c.authenticate request).value with
  | error e =>
    rw [issueToken, handle_of_rejected ha, Http.Response.status_ofFailure] at h
    exact absurd h (Failure.status_ne_ok _)
  | ok identity =>
    rw [issueToken, handle_of_authenticated ha] at h ⊢
    obtain ⟨response, hr⟩ := status_responseOf h
    obtain ⟨blobId, token, hpath, hg, rfl⟩ := of_serveToken hr
    exact ⟨identity, blobId, token, rfl, hpath, hg, by rw [hr]; rfl⟩

/-- What the holder of a key gets from a good answer: the key was legible, and the text is
the token for its user and the blob of the path. -/
theorem issued_of_respond (hkey : ApiKey.userOf? service.apiKeys key = some user) (hmethod : post.method = "POST")
    (hpath : DownloadPath.IsPathOf post.path blobId.value) (hpresents : ApiKey.Presents post key)
    {store : BlobStore σ} (hstatus : (respond (service.collaborators clock store) post).value.status = 200)
    (hbody : (respond (service.collaborators clock store) post).value.body = .bytes (Utf8.encode text)) :
    Http.isVisible (Utf8.encode (ApiKey.scheme ++ key)) = true ∧
      text = (service.tokens.issue clock user blobId).serialize := by
  rw [respond_issueToken hmethod hpath, Traced.value_map] at hstatus hbody
  rw [dressed_status] at hstatus
  rw [dressed_body] at hbody
  obtain ⟨identity, blobId', token, hi, hb, hg, hr⟩ := of_issueToken hstatus
  have ha : ApiKey.outcome service.apiKeys post = .ok identity := by
    rw [← hi]
    exact congrArg Traced.value (Service.authenticate_of_presents hpresents).symm
  rw [ApiKey.outcome_of_presents hpresents hkey] at ha
  split at ha
  · rename_i hvisible
    cases ha
    -- What was issued is for the blob that the path of the request reaches, and no other.
    obtain rfl : blobId' = blobId := BlobId.ext (hb.unique hpath)
    obtain rfl : service.tokens.issue clock user blobId' = token := Except.ok.inj hg
    simp only [hr, tokenResponse, Http.Body.bytes.injEq, Utf8.encode_inj] at hbody
    exact ⟨hvisible, hbody.symm⟩
  · cases ha

/-- The holder of a legible key gets a token for any blob that the store has for them. -/
theorem respond_of_contains (hkey : ApiKey.userOf? service.apiKeys key = some user)
    (hvisible : Http.isVisible (Utf8.encode (ApiKey.scheme ++ key)) = true) (hmethod : post.method = "POST")
    (hpath : DownloadPath.IsPathOf post.path blobId.value) (hpresents : ApiKey.Presents post key)
    {store : BlobStore σ} (hfound : (store.contains blobId ⟨user, .apiKey⟩).value = .ok true) :
    (respond (service.collaborators clock store) post).value.status = 200 ∧
      (respond (service.collaborators clock store) post).value.body =
        .bytes (Utf8.encode (service.tokens.issue clock user blobId).serialize) := by
  have hi : ((service.collaborators clock store).authenticate post).value = .ok ⟨user, .apiKey⟩ := by
    rw [show (service.collaborators clock store).authenticate = (service.strategy clock).authenticate from rfl,
      Service.authenticate_of_presents hpresents, Traced.value_pure, ApiKey.outcome_of_presents hpresents hkey,
      if_pos hvisible]
  have hg : (service.collaborators clock store).generate user blobId =
      .ok (service.tokens.issue clock user blobId) := rfl
  have hserve : (serveToken (service.collaborators clock store) post.path ⟨user, .apiKey⟩).run.value =
      .ok (tokenResponse (service.tokens.issue clock user blobId)) := by
    rw [serveToken_of_resolved (DownloadPath.blobIdOf_eq_ok_iff.2 hpath)]
    exact congrArg Traced.value (tokenFrom_of_issued hfound hg)
  have hv : (issueToken (service.collaborators clock store) post).value =
      tokenResponse (service.tokens.issue clock user blobId) := by
    rw [issueToken, handle_of_authenticated hi, hserve]
    rfl
  rw [respond_issueToken hmethod hpath, Traced.value_map, dressed_status, dressed_body, hv]
  exact ⟨rfl, rfl⟩

/-! ## Presenting -/

theorem download_of_authenticated {identity : Identity} (h : (c.authenticate request).value = .ok identity) :
    (download c request).value = responseOf (serveBlob c request.path identity).run.value := by
  rw [download, handle_of_authenticated h]

/-- A token stands for the key it was issued to. Let a key of a user be good for a token: a
`POST` for a blob that presents the key is answered 200 with a text. Then a later `GET` for
the blob, under any name, whose query is this token and which has no authorization field,
(1) is answered as it would be with the key, while the clock shows no more than the moment
of issue and the lifetime, as far as 64 bits go; (2) is answered 401 from then on, and the
store is not asked. -/
theorem token_stands_for_key (service : Service) {user key : String}
    (hkey : ApiKey.userOf? service.apiKeys key = some user) {blobId : BlobId}
    (clock : Int) (repository : Repository) (tree : FileTree) {post : Http.Request}
    (hmethod : post.method = "POST") (hpath : DownloadPath.IsPathOf post.path blobId.value)
    (hpresents : ApiKey.Presents post key) {text : String}
    (hstatus : (respond (service.collaborators clock (repository.toStore tree)) post).value.status = 200)
    (hbody : (respond (service.collaborators clock (repository.toStore tree)) post).value.body =
      .bytes (Utf8.encode text))
    (clock' : Int) (repository' : Repository) (tree' : FileTree) {get : Http.Request}
    (hget : get.method = "GET") (hpath' : DownloadPath.IsPathOf get.path blobId.value)
    (hquery : get.query = some ("access_token=" ++ text))
    (hheader : get.headers.get? "authorization" = none) :
    let c := service.collaborators clock' (repository'.toStore tree')
    let bound : Int := min (max clock 0 + service.tokens.ttl) Decimal.max64
    (max clock' 0 ≤ bound → ∀ get' : Http.Request, get.SameButCredentials get' → ApiKey.Presents get' key →
      (respond c get).value = (respond c get').value) ∧
    (bound < max clock' 0 → (respond c get).value.status = 401 ∧
      Event.calls (respond c get).events = [.authenticate, .verifyToken blobId]) := by
  intro c bound
  obtain ⟨hvisible, rfl⟩ := issued_of_respond hkey hmethod hpath hpresents hstatus hbody
  have hbound : max clock' 0 ≤ bound ↔ TokenFactory.seconds clock' ≤ service.tokens.expiry clock := by
    simp only [bound, TokenFactory.seconds, TokenFactory.expiry, Decimal.max64]
    omega
  have ha : (service.strategy clock').authenticate get = _ :=
    Service.authenticate_of_issued hget hpath' hquery hheader
  constructor
  · intro hle get' hsame hpresents'
    rw [if_pos (hbound.1 hle)] at ha
    have hi : (c.authenticate get).value = .ok ⟨user, .attachmentToken⟩ := congrArg Traced.value ha
    have hi' : (c.authenticate get').value = .ok ⟨user, .apiKey⟩ := by
      rw [show c.authenticate = (service.strategy clock').authenticate from rfl,
        Service.authenticate_of_presents hpresents', Traced.value_pure,
        ApiKey.outcome_of_presents hpresents' hkey, if_pos hvisible]
    rw [respond_download hget hpath',
      respond_download (hsame.method ▸ hget) (show DownloadPath.IsPathOf get'.path _ from hsame.path ▸ hpath'),
      Traced.value_map, Traced.value_map, download_of_authenticated hi, download_of_authenticated hi',
      ← hsame.path, dressed_congr (hsame.get?_eq (by decide))]
    -- The store cannot tell the two identities apart.
    have hstore : ∀ blobId, c.store.retrieve blobId ⟨user, .attachmentToken⟩ =
        c.store.retrieve blobId ⟨user, .apiKey⟩ := fun blobId => repository'.toStore_congr tree' blobId rfl
    rw [serveBlob_value_congr hstore]
  · intro hlt
    -- The code is good, but the lifetime is over: authentication is as far as this gets.
    rw [if_neg (fun h => absurd (hbound.2 h) (by omega))] at ha
    have hi : (c.authenticate get).value = .error (.invalid (.token .expired)) := congrArg Traced.value ha
    have he : (c.authenticate get).events = [.call (.verifyToken blobId)] := congrArg Traced.events ha
    rw [respond_download hget hpath', Traced.value_map, Traced.events_map, download,
      handle_of_rejected hi, he]
    refine ⟨?_, rfl⟩
    rw [dressed_status, Http.Response.status_ofFailure]
    rfl

/-- A blob of two bytes is read with a token, under a name of its own, up to the last second. -/
theorem token_reads_until_expiry :
    let service : Service := ⟨[("alice", "key")], ⟨[1], 300⟩, ⟨true, []⟩⟩
    let blobId : BlobId := ⟨"b", by decide⟩
    let repository : Repository := .memory (MemoryStore.empty.insert "alice" blobId ⟨"text/plain", [104, 105]⟩)
    let collaborators := fun clock => service.collaborators clock (repository.toStore .empty)
    let query := "access_token=" ++ (service.tokens.issue 0 "alice" blobId).serialize
    let byToken : Http.Request := ⟨"GET", "/download/b/note.txt", some query, []⟩
    let byKey : Http.Request :=
      ⟨"GET", "/download/b/note.txt", none, [("authorization", Utf8.encode (ApiKey.scheme ++ "key"))]⟩
    (respond (collaborators 300) byToken).value = (respond (collaborators 300) byKey).value ∧
      (respond (collaborators 301) byToken).value.status = 401 := by
  intro service blobId repository collaborators query byToken byKey
  have hkey : ApiKey.userOf? service.apiKeys "key" = some "alice" := by decide
  have hpath : DownloadPath.IsPathOf "/download/b" blobId.value := ⟨by decide, by decide, .inl (by decide)⟩
  have hpath' : DownloadPath.IsPathOf byToken.path blobId.value :=
    ⟨by decide, by decide, .inr ⟨"note.txt", by decide, by decide, by decide⟩⟩
  let post : Http.Request := ⟨"POST", "/download/b", none, byKey.headers⟩
  have hpresents : ApiKey.Presents post "key" := rfl
  have hissued : (respond (collaborators 0) post).value.status = 200 ∧
      (respond (collaborators 0) post).value.body =
        .bytes (Utf8.encode (service.tokens.issue 0 "alice" blobId).serialize) :=
    respond_of_contains hkey (by decide) rfl hpath hpresents rfl
  have h := fun clock => token_stands_for_key service hkey 0 repository .empty rfl hpath hpresents
    hissued.1 hissued.2 clock repository .empty rfl hpath' rfl rfl
  exact ⟨(h 300).1 (by decide) byKey ⟨rfl, rfl, rfl⟩ rfl, ((h 301).2 (by decide)).1⟩

end DownloadGateway.Gateway
