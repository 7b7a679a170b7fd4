import DownloadGateway.Proofs.Gateway.Respond
/-!
# What each stage does

For each stage of a request there is one lemma that bounds its events: they are the stage's own
and those of the collaborator it asks. What is proved of calls and of log entries is a case
analysis over these. Another says what the stage answers if it does not fail.
-/

namespace DownloadGateway

theorem Event.mem_calls {call : Call} {es : List Event} : call ∈ calls es ↔ .call call ∈ es := by
  rw [calls, List.mem_filterMap]
  constructor
  · rintro ⟨event, hevent, h⟩
    cases event with
    | call _ => exact Option.some.inj h ▸ hevent
    | log _ => cases h
  · exact fun h => ⟨_, h, rfl⟩

theorem Event.mem_logs {entry : LogEvent} {es : List Event} : entry ∈ logs es ↔ .log entry ∈ es := by
  rw [logs, List.mem_filterMap]
  constructor
  · rintro ⟨event, hevent, h⟩
    cases event with
    | call _ => cases h
    | log _ => exact Option.some.inj h ▸ hevent
  · exact fun h => ⟨_, h, rfl⟩

/-- The gateway's own stores call nothing. What they record is that an id makes no key, or where a
blob was found. -/
theorem Repository.mem_toStore {repository : Repository} {tree : FileTree} {blobId : BlobId} {identity : Identity}
    {event : Event}
    (h : event ∈ ((repository.toStore tree).retrieve blobId identity).events ∨
      event ∈ ((repository.toStore tree).contains blobId identity).events) :
    (∃ reason, event = .log (.blobIdRejected blobId reason)) ∨
      ∃ path size contentType, event = .log (.blobResolved path size contentType) := by
  cases repository with
  | memory m => rcases h with h | h <;> cases h
  | directory d =>
    simp only [toStore, DirectoryStore.toStore, Traced.events_map] at h
    rcases h with h | h
    · unfold DirectoryStore.find at h
      split at h
      · exact .inl ⟨_, List.mem_singleton.1 h⟩
      · split at h
        · exact .inr ⟨_, _, _, List.mem_singleton.1 h⟩
        · cases h
    · unfold DirectoryStore.contains at h
      split at h
      · exact .inl ⟨_, List.mem_singleton.1 h⟩
      · cases h

namespace Gateway

variable {σ : Type} {c : Collaborators σ} {request : Http.Request} {identity : Identity} {event : Event}

/-! ## Up to the outcome -/

/-- The outcome of a request at an endpoint that does `serve` for whoever sent it. -/
def outcomeOf (c : Collaborators σ) (request : Http.Request) (serve : Identity → Step (Http.Response σ)) :
    Except Failure (Http.Response σ) :=
  match (c.authenticate request).value with
  | .error e => .error e.toFailure
  | .ok identity => (serve identity).run.value

/-- What the log tells of a request once it has an outcome. -/
def contextOf (action : String) (c : Collaborators σ) (request : Http.Request) : RequestContext :=
  { RequestContext.ofRequest action request with identity := (c.authenticate request).value.toOption }

/-- What happens to a request before its outcome is recorded. -/
def workOf (c : Collaborators σ) (request : Http.Request) (serve : Identity → Step (Http.Response σ)) : List Event :=
  .call .authenticate :: (c.authenticate request).events ++
    match (c.authenticate request).value with
    | .error _ => []
    | .ok identity => .log (.authenticated identity) :: (serve identity).run.events

variable {action : String} {serve : Identity → Step (Http.Response σ)}

theorem outcomeOf_of_rejected {e : AuthError} (h : (c.authenticate request).value = .error e) :
    outcomeOf c request serve = .error e.toFailure := by
  rw [outcomeOf, h]

theorem outcomeOf_of_authenticated (h : (c.authenticate request).value = .ok identity) :
    outcomeOf c request serve = (serve identity).run.value := by
  rw [outcomeOf, h]

/-- The last thing that happens at an endpoint is that the outcome is recorded. -/
theorem handle_eq (action : String) (c : Collaborators σ) (request : Http.Request)
    (serve : Identity → Step (Http.Response σ)) :
    handle action c request serve =
      ⟨responseOf (outcomeOf c request serve),
        workOf c request serve ++ [.log (entryOf (contextOf action c request) (outcomeOf c request serve))]⟩ := by
  cases ha : (c.authenticate request).value with
  | error e =>
    rw [handle_of_rejected ha, outcomeOf_of_rejected ha]
    simp [workOf, contextOf, ha, Except.toOption, responseOf, entryOf, RequestContext.ofRequest]
  | ok identity =>
    rw [handle_of_authenticated ha, outcomeOf_of_authenticated ha]
    simp [workOf, contextOf, ha, Except.toOption]

theorem mem_workOf (h : event ∈ workOf c request serve) :
    event = .call .authenticate ∨ event ∈ (c.authenticate request).events ∨
      ∃ identity, (c.authenticate request).value = .ok identity ∧
        (event = .log (.authenticated identity) ∨ event ∈ (serve identity).run.events) := by
  rw [workOf, List.cons_append, List.mem_cons, List.mem_append] at h
  refine h.imp_right fun h => h.imp_right fun h => ?_
  split at h
  · cases h
  · rename_i identity hi
    exact ⟨identity, hi, List.mem_cons.1 h⟩

/-! ## The stages of an endpoint -/

theorem mem_streamResponse {contentType : String} {name : Option String} {s : BlobStream σ}
    (h : event ∈ (streamResponse contentType name s).events) : event ∈ s.release false := by
  by_cases hlegal : Http.isLegalValue (Utf8.encode contentType) = true
  · rw [streamResponse_of_legal hlegal] at h
    cases h
  · rwa [streamResponse_of_illegal hlegal] at h

theorem mem_downloadFrom {target : DownloadPath} {answer : Traced (Except StorageError (Blob σ))}
    (h : event ∈ (downloadFrom target answer).run.events) :
    event ∈ answer.events ∨ event = .call .openContent ∨ ∃ s : BlobStream σ, event ∈ s.release false := by
  cases hr : answer.value with
  | error e =>
    rw [downloadFrom_of_not_retrieved hr] at h
    exact .inl h
  | ok blob =>
    cases ho : blob.content with
    | error e =>
      rw [downloadFrom_of_not_opened hr ho, List.mem_append] at h
      exact h.imp_right fun h => .inl (List.mem_singleton.1 h)
    | ok source =>
      rw [downloadFrom_of_opened hr ho, List.mem_append, List.mem_cons] at h
      exact h.imp_right fun h => h.imp_right fun h => ⟨_, mem_streamResponse h⟩

theorem mem_tokenFrom {user : String} {blobId : BlobId} {answer : Traced (Except StorageError Bool)}
    (h : event ∈ (tokenFrom c user blobId answer).run.events) :
    event ∈ answer.events ∨ event = .call (.generateToken user blobId) ∨ event = .log (.tokenIssued user blobId) := by
  cases hs : answer.value with
  | error e =>
    rw [tokenFrom_of_store_error hs] at h
    exact .inl h
  | ok found =>
    cases found with
    | false =>
      rw [tokenFrom_of_missing hs] at h
      exact .inl h
    | true =>
      cases hg : c.generate user blobId with
      | error e =>
        rw [tokenFrom_of_token_error hs hg, List.mem_append] at h
        exact h.imp_right fun h => .inl (List.mem_singleton.1 h)
      | ok token =>
        rw [tokenFrom_of_issued hs hg, List.mem_append] at h
        simpa using h

/-- A download asks the store for the blob, and opens it. -/
theorem mem_serveBlob {path : String} (h : event ∈ (serveBlob c path identity).run.events) :
    ∃ blobId, DownloadPath.IsPathOf path blobId.value ∧
      (event = .call (.retrieve identity blobId) ∨ event ∈ (c.store.retrieve blobId identity).events ∨
        event = .call .openContent ∨ ∃ s : BlobStream σ, event ∈ s.release false) := by
  cases hp : DownloadPath.resolve path with
  | error f =>
    rw [serveBlob_of_unresolved hp] at h
    cases h
  | ok target =>
    rw [serveBlob_of_resolved hp, List.mem_cons] at h
    exact ⟨target.blobId, DownloadPath.isPathOf_of_resolve hp, h.imp_right mem_downloadFrom⟩

/-- Whoever asks for a token has the store asked whether there is a blob, and the token made. -/
theorem mem_serveToken {path : String} (h : event ∈ (serveToken c path identity).run.events) :
    ∃ blobId, DownloadPath.IsPathOf path blobId.value ∧
      (event = .call (.contains identity blobId) ∨ event ∈ (c.store.contains blobId identity).events ∨
        event = .call (.generateToken identity.user blobId) ∨ event = .log (.tokenIssued identity.user blobId)) := by
  cases hp : DownloadPath.blobIdOf path with
  | error f =>
    rw [serveToken_of_unresolved hp] at h
    cases h
  | ok blobId =>
    rw [serveToken_of_resolved hp, List.mem_cons] at h
    exact ⟨blobId, DownloadPath.blobIdOf_eq_ok_iff.1 hp, h.imp_right mem_tokenFrom⟩

/-- Only a stream that is given up records anything on the way out. -/
theorem mem_withoutBody {response : Http.Response σ} (h : event ∈ (withoutBody request response).events) :
    ∃ s : BlobStream σ, event ∈ s.release false := by
  by_cases hm : request.method = "HEAD"
  · rw [withoutBody_of_head hm] at h
    cases hb : response.body with
    | bytes content =>
      rw [hb] at h
      cases h
    | stream chunkSize s =>
      rw [hb] at h
      exact ⟨s, h⟩
  · rw [withoutBody_of_ne_head hm] at h
    cases h

/-! ## What an endpoint answers -/

theorem of_streamResponse {contentType : String} {name : Option String} {s : BlobStream σ}
    {response : Http.Response σ} (h : (streamResponse contentType name s).value = .ok response) :
    response = ⟨200, downloadHeaders contentType s.declared name, .stream chunkSize s⟩ := by
  by_cases hlegal : Http.isLegalValue (Utf8.encode contentType) = true
  · rw [streamResponse_of_legal hlegal] at h
    exact (Except.ok.inj h).symm
  · rw [streamResponse_of_illegal hlegal] at h
    cases h

/-- A download that does not fail is answered with the blob as a stream. -/
theorem of_serveBlob {path : String} {response : Http.Response σ}
    (h : (serveBlob c path identity).run.value = .ok response) :
    ∃ contentType name, ∃ s : BlobStream σ,
      response = ⟨200, downloadHeaders contentType s.declared name, .stream chunkSize s⟩ := by
  cases hp : DownloadPath.resolve path with
  | error f =>
    rw [serveBlob_of_unresolved hp] at h
    cases h
  | ok target =>
    rw [serveBlob_of_resolved hp] at h
    cases hr : (c.store.retrieve target.blobId identity).value with
    | error e =>
      rw [downloadFrom_of_not_retrieved hr] at h
      cases h
    | ok blob =>
      cases ho : blob.content with
      | error e =>
        rw [downloadFrom_of_not_opened hr ho] at h
        cases h
      | ok source =>
        rw [downloadFrom_of_opened hr ho] at h
        exact ⟨_, _, _, of_streamResponse h⟩

theorem of_tokenFrom {user : String} {blobId : BlobId} {answer : Traced (Except StorageError Bool)}
    {response : Http.Response σ}
    (h : (tokenFrom c user blobId answer).run.value = .ok response) :
    ∃ token, c.generate user blobId = .ok token ∧ response = tokenResponse token := by
  cases hs : answer.value with
  | error e =>
    rw [tokenFrom_of_store_error hs] at h
    cases h
  | ok found =>
    cases found with
    | false =>
      rw [tokenFrom_of_missing hs] at h
      cases h
    | true =>
      cases hg : c.generate user blobId with
      | error e =>
        rw [tokenFrom_of_token_error hs hg] at h
        cases h
      | ok token =>
        rw [tokenFrom_of_issued hs hg] at h
        cases h
        exact ⟨token, rfl, rfl⟩

theorem of_serveToken {path : String} {response : Http.Response σ}
    (h : (serveToken c path identity).run.value = .ok response) :
    ∃ blobId token, DownloadPath.IsPathOf path blobId.value ∧ c.generate identity.user blobId = .ok token ∧
      response = tokenResponse token := by
  cases hp : DownloadPath.blobIdOf path with
  | error f =>
    rw [serveToken_of_unresolved hp] at h
    cases h
  | ok blobId =>
    rw [serveToken_of_resolved hp] at h
    obtain ⟨token, hg, hr⟩ := of_tokenFrom h
    exact ⟨blobId, token, DownloadPath.blobIdOf_eq_ok_iff.1 hp, hg, hr⟩

end Gateway

end DownloadGateway
