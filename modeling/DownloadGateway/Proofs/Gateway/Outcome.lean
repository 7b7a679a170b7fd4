import DownloadGateway.Proofs.Authentication
import DownloadGateway.Proofs.Gateway.Events
/-!
# The record of an outcome

A request for a download path has one outcome, however it ends, and one entry of the log tells it:
who asked, for which blob, and which status the client got. The entries of the stages before are
not about outcomes, so a second one could only come from a collaborator, and those of an assembled
service make none.
-/

namespace DownloadGateway

/-! ## Entries about outcomes -/

namespace LogEvent

/-- The messages of the entries that record outcomes. -/
def outcomeMessages : List String :=
  ["Request handled", "Request rejected", "Malformed request", "Request failed"]

/-- Whether an entry records the outcome of a request. -/
def IsOutcome (entry : LogEvent) : Prop := entry.message ∈ outcomeMessages

instance : DecidablePred IsOutcome := fun entry => inferInstanceAs (Decidable (entry.message ∈ outcomeMessages))

theorem isOutcome_iff {entry : LogEvent} :
    entry.IsOutcome ↔ (∃ context status, entry = .handled context status) ∨ ∃ context f, entry = .failed context f := by
  unfold IsOutcome
  cases entry with
  | failed context f => cases f <;> simp [message, outcomeMessages, Failure.level]
  | _ => simp [message, outcomeMessages]

end LogEvent

namespace Event

/-- The entries among some events that record outcomes. -/
def outcomes (es : List Event) : List LogEvent := (logs es).filter (·.IsOutcome)

theorem mem_outcomes {entry : LogEvent} {es : List Event} :
    entry ∈ outcomes es ↔ .log entry ∈ es ∧ entry.IsOutcome := by
  rw [outcomes, List.mem_filter, mem_logs, decide_eq_true_eq]

theorem outcomes_append (es es' : List Event) : outcomes (es ++ es') = outcomes es ++ outcomes es' := by
  rw [outcomes, logs, List.filterMap_append, List.filter_append]
  rfl

theorem outcomes_log {entry : LogEvent} (h : entry.IsOutcome) : outcomes [.log entry] = [entry] :=
  List.filter_eq_self.2 (by simpa [logs] using h)

theorem outcomes_eq_nil {es : List Event} (h : ∀ entry, .log entry ∈ es → ¬entry.IsOutcome) : outcomes es = [] := by
  refine List.eq_nil_iff_forall_not_mem.2 fun entry hentry => ?_
  obtain ⟨hlog, houtcome⟩ := mem_outcomes.1 hentry
  exact h entry hlog houtcome

end Event

theorem BlobStream.not_isOutcome_of_release {σ : Type} {s : BlobStream σ} {entry : LogEvent}
    (h : .log entry ∈ s.release false) : ¬entry.IsOutcome := by
  obtain rfl : entry = .streamReleased s.blobId s.sent s.declared := by simpa [release] using h
  simp [LogEvent.isOutcome_iff]

/-! ## What collaborators record -/

namespace Collaborators

variable {σ : Type}

/-- The entries that collaborators make themselves while they answer for a request. -/
inductive Records (c : Collaborators σ) (request : Http.Request) (entry : LogEvent) : Prop
  | authenticate (h : .log entry ∈ (c.authenticate request).events)
  | retrieve {blobId identity} (h : .log entry ∈ (c.store.retrieve blobId identity).events)
  | contains {blobId identity} (h : .log entry ∈ (c.store.contains blobId identity).events)

/-- Collaborators that leave it to the gateway to record the outcome of a request. -/
def Discreet (c : Collaborators σ) (request : Http.Request) : Prop :=
  ∀ entry, c.Records request entry → ¬entry.IsOutcome

end Collaborators

theorem Repository.not_isOutcome_of_toStore {repository : Repository} {tree : FileTree} {blobId : BlobId}
    {identity : Identity} {entry : LogEvent}
    (h : .log entry ∈ ((repository.toStore tree).retrieve blobId identity).events ∨
      .log entry ∈ ((repository.toStore tree).contains blobId identity).events) : ¬entry.IsOutcome := by
  rcases mem_toStore h with ⟨reason, h⟩ | ⟨path, size, contentType, h⟩
  · cases h
    simp [LogEvent.isOutcome_iff]
  · cases h
    simp [LogEvent.isOutcome_iff]

/-- The authenticators and the stores of an assembled service record no outcomes. -/
theorem Service.discreet (service : Service) (clock : Int) (repository : Repository) (tree : FileTree)
    (request : Http.Request) : (service.collaborators clock (repository.toStore tree)).Discreet request := by
  rintro entry (h | h | h)
  · exact absurd h (Service.log_not_mem_authenticate entry)
  · exact Repository.not_isOutcome_of_toStore (.inl h)
  · exact Repository.not_isOutcome_of_toStore (.inr h)

/-! ## One entry for each outcome -/

/-- How the log announces an outcome of some status: at which level and with which message. -/
inductive Announced : Nat → Level → String → Prop
  | handled : Announced 200 .debug "Request handled"
  | unauthorized : Announced 401 .info "Request rejected"
  | notFound : Announced 404 .info "Request rejected"
  | malformed : Announced 400 .warn "Malformed request"
  | failed : Announced 500 .error "Request failed"

/-- The status, the level and the message determine each other, but that 401 and 404 are announced
alike. -/
theorem Announced.iffs {status : Nat} {level : Level} {message : String} (h : Announced status level message) :
    (message = "Request handled" ↔ status = 200) ∧ (level = .info ↔ status = 401 ∨ status = 404) ∧
      (level = .warn ↔ status = 400) ∧ (level = .error ↔ status = 500) := by
  cases h <;> decide

namespace Gateway

variable {σ : Type} {c : Collaborators σ} {request : Http.Request} {context : RequestContext}
  {outcome : Except Failure (Http.Response σ)} {entry : LogEvent}

/-- The outcome of a request is recorded by an entry. If there are others about outcomes, they come
before it, from collaborators. -/
def RecordedBy (c : Collaborators σ) (request : Http.Request) (entry : LogEvent) : Prop :=
  ∃ others, Event.outcomes (respond c request).events = others ++ [entry] ∧ ∀ other ∈ others, c.Records request other

theorem RecordedBy.only (h : RecordedBy c request entry) (hc : c.Discreet request) :
    Event.outcomes (respond c request).events = [entry] := by
  obtain ⟨others, houtcomes, hothers⟩ := h
  have hnone : others = [] := by
    refine List.eq_nil_iff_forall_not_mem.2 fun other hother => hc other (hothers other hother) ?_
    have hmem : other ∈ Event.outcomes (respond c request).events := by
      rw [houtcomes]
      exact List.mem_append_left _ hother
    exact (Event.mem_outcomes.1 hmem).2
  rw [houtcomes, hnone, List.nil_append]

theorem announced_entryOf (h : ∀ response, outcome = .ok response → response.status = 200) :
    Announced (responseOf outcome).status (entryOf context outcome).level (entryOf context outcome).message := by
  cases outcome with
  | ok response =>
    rw [responseOf, h response rfl]
    exact .handled
  | error f =>
    rw [responseOf, Http.Response.status_ofFailure]
    cases f with
    | unauthorized _ => exact .unauthorized
    | notFound _ => exact .notFound
    | badRequest _ _ => exact .malformed
    | storage _ _ | internal _ => exact .failed

theorem isOutcome_entryOf (context : RequestContext) (outcome : Except Failure (Http.Response σ)) :
    (entryOf context outcome).IsOutcome := by
  rw [LogEvent.isOutcome_iff]
  cases outcome with
  | ok response => exact .inl ⟨_, _, rfl⟩
  | error f => exact .inr ⟨_, _, rfl⟩

/-- An entry tells its context and the status of the response, and maybe more. -/
theorem fields_entryOf (context : RequestContext) (outcome : Except Failure (Http.Response σ)) :
    ∃ more, (entryOf context outcome).fields = LogEvent.contextFields context (responseOf outcome).status ++ more := by
  cases outcome with
  | ok response => exact ⟨[], (List.append_nil _).symm⟩
  | error f =>
    rw [responseOf, Http.Response.status_ofFailure]
    exact ⟨_, rfl⟩

/-! ## The two endpoints -/

/-- What is done for whoever sent a request for a download path, and the name it has in the log. -/
inductive Serves (c : Collaborators σ) (request : Http.Request) : String → (Identity → Step (Http.Response σ)) → Prop
  | download (hm : request.method = "GET" ∨ request.method = "HEAD") :
    Serves c request "download" (serveBlob c request.path)
  | issueToken (hm : request.method = "POST") :
    Serves c request "issue_attachment_token" (serveToken c request.path)

theorem exists_serves (c : Collaborators σ) (hm : request.method ∈ ["GET", "HEAD", "POST"]) :
    ∃ action serve, Serves c request action serve := by
  simp only [List.mem_cons, List.not_mem_nil, or_false] at hm
  rcases hm with hm | hm | hm
  · exact ⟨_, _, .download (.inl hm)⟩
  · exact ⟨_, _, .download (.inr hm)⟩
  · exact ⟨_, _, .issueToken hm⟩

variable {action : String} {serve : Identity → Step (Http.Response σ)} {blob : String}

/-- On a path that is routed the sender is served, and the response leaves with its headers. -/
theorem Serves.respond_eq (h : Serves c request action serve) (hpath : Routed request.path) :
    respond c request =
      handle action c request serve >>= fun response =>
        withoutBody request (dressed c.cors request .decorate response) := by
  cases h with
  | download hm =>
    have hmem : request.method ∈ Endpoint.download.methods := by simpa [Endpoint.methods] using hm
    rw [respond_of_routed hpath hmem, runEndpoint, Gateway.download, Endpoint.corsRole]
  | issueToken hm =>
    have hmem : request.method ∈ Endpoint.issueToken.methods := by simpa [Endpoint.methods] using hm
    rw [respond_of_routed hpath hmem, runEndpoint, Gateway.issueToken, Endpoint.corsRole]

/-- Serving the sender records no outcome, unless the store does. -/
theorem Serves.records (h : Serves c request action serve) {identity : Identity}
    (hmem : .log entry ∈ (serve identity).run.events) (houtcome : entry.IsOutcome) : c.Records request entry := by
  cases h with
  | download hm =>
    obtain ⟨blobId, -, h | h | h | ⟨s, h⟩⟩ := mem_serveBlob hmem
    · cases h
    · exact .retrieve h
    · cases h
    · exact absurd houtcome (s.not_isOutcome_of_release h)
  | issueToken hm =>
    obtain ⟨blobId, -, h | h | h | h⟩ := mem_serveToken hmem
    · cases h
    · exact .contains h
    · cases h
    · cases h
      simp [LogEvent.isOutcome_iff] at houtcome

theorem Serves.status (h : Serves c request action serve) {response : Http.Response σ}
    (hok : outcomeOf c request serve = .ok response) : response.status = 200 := by
  unfold outcomeOf at hok
  split at hok
  · cases hok
  · cases h with
    | download hm =>
      obtain ⟨_, _, _, rfl⟩ := of_serveBlob hok
      rfl
    | issueToken hm =>
      obtain ⟨_, _, -, -, rfl⟩ := of_serveToken hok
      rfl

/-- The entry that records the outcome of a request. -/
theorem Serves.recordedBy (h : Serves c request action serve) (hpath : DownloadPath.IsPathOf request.path blob) :
    RecordedBy c request (entryOf (contextOf action c request) (outcomeOf c request serve)) := by
  rw [RecordedBy, h.respond_eq (.inl ⟨_, hpath⟩), handle_eq, Traced.events_bind]
  refine ⟨Event.outcomes (workOf c request serve), ?_, fun other hother => ?_⟩
  · have hdropped : ∀ response : Http.Response σ, Event.outcomes (withoutBody request response).events = [] := by
      refine fun response => Event.outcomes_eq_nil fun entry hentry => ?_
      obtain ⟨s, hs⟩ := mem_withoutBody hentry
      exact s.not_isOutcome_of_release hs
    rw [Event.outcomes_append, Event.outcomes_append, Event.outcomes_log (isOutcome_entryOf ..), hdropped,
      List.append_nil]
  · obtain ⟨hmem, houtcome⟩ := Event.mem_outcomes.1 hother
    rcases mem_workOf hmem with h' | h' | ⟨identity, -, h' | h'⟩
    · cases h'
    · exact .authenticate h'
    · cases h'
      simp [LogEvent.isOutcome_iff] at houtcome
    · exact h.records h' houtcome

theorem Serves.status_respond (h : Serves c request action serve) (hpath : Routed request.path) :
    (respond c request).value.status = (responseOf (outcomeOf c request serve)).status := by
  rw [h.respond_eq hpath, handle_eq, Traced.value_bind, withoutBody_status, dressed_status]

/-- What the entry for an outcome says: how the request was answered, who sent it and which blob it
was for. -/
structure Tells (c : Collaborators σ) (request : Http.Request) (blob : String) (entry : LogEvent) : Prop where
  announced : Announced (respond c request).value.status entry.level entry.message
  status : entry.fields.lookup "status" = some (toString (respond c request).value.status)
  user : entry.fields.lookup "user" =
    some (match (c.authenticate request).value with
      | .ok identity => identity.user
      | .error _ => "-")
  blob : entry.fields.lookup "blob_id" = some blob

theorem Serves.tells (h : Serves c request action serve) (hpath : DownloadPath.IsPathOf request.path blob) :
    Tells c request blob (entryOf (contextOf action c request) (outcomeOf c request serve)) := by
  have hblob : DownloadPath.rawBlobId? request.path = some blob := DownloadPath.rawBlobId?_eq_some_iff.2 hpath
  have hstatus := h.status_respond (.inl ⟨_, hpath⟩)
  obtain ⟨more, hfields⟩ := fields_entryOf (contextOf action c request) (outcomeOf c request serve)
  refine ⟨hstatus ▸ announced_entryOf fun _ => h.status, ?_, ?_, ?_⟩
  · rw [hfields, hstatus]
    simp [LogEvent.contextFields, List.lookup_cons]
  · rw [hfields]
    cases ha : (c.authenticate request).value with
    | error e => simp [LogEvent.contextFields, List.lookup_cons, contextOf, ha, Except.toOption, LogEvent.unknown]
    | ok identity => simp [LogEvent.contextFields, List.lookup_cons, contextOf, ha, Except.toOption]
  · rw [hfields]
    simp [LogEvent.contextFields, List.lookup_cons, contextOf, RequestContext.ofRequest, hblob]

/-- Whatever the collaborators do, the outcome of a request for a download path is recorded once by
the gateway, and it is the only record unless a collaborator makes another. The entry announces the
status that the client gets, as the log does for this status and no other, and it tells the user,
if there is one, and the blob of the path. -/
theorem outcome_recorded_once (c : Collaborators σ) (hm : request.method ∈ ["GET", "HEAD", "POST"])
    (hpath : DownloadPath.IsPathOf request.path blob) :
    let status := (respond c request).value.status
    ∃ entry, RecordedBy c request entry ∧
      (c.Discreet request → Event.outcomes (respond c request).events = [entry]) ∧ Tells c request blob entry ∧
      (entry.message = "Request handled" ↔ status = 200) ∧ (entry.level = .info ↔ status = 401 ∨ status = 404) ∧
      (entry.level = .warn ↔ status = 400) ∧ (entry.level = .error ↔ status = 500) := by
  intro status
  obtain ⟨action, serve, hserves⟩ := exists_serves c hm
  have hrecorded := hserves.recordedBy hpath
  have htells := hserves.tells hpath
  exact ⟨_, hrecorded, hrecorded.only, htells, htells.announced.iffs⟩

/-- Alice asks for the headers of a blob that nobody has. -/
theorem outcome_recorded_once_missing :
    let service : Service := ⟨[("alice", "key")], ⟨[1], 300⟩, ⟨true, []⟩⟩
    let request : Http.Request := ⟨"HEAD", "/download/b", none, [("authorization", Utf8.encode "Bearer key")]⟩
    let c := service.collaborators 0 ((Repository.memory .empty).toStore .empty)
    request.method ∈ ["GET", "HEAD", "POST"] ∧ DownloadPath.IsPathOf request.path "b" ∧
      ∃ entry, Event.outcomes (respond c request).events = [entry] ∧ (respond c request).value.status = 404 ∧
        entry.level = .info ∧ entry.message = "Request rejected" ∧ entry.fields.lookup "status" = some "404" ∧
        entry.fields.lookup "user" = some "alice" ∧ entry.fields.lookup "blob_id" = some "b" := by
  intro service request c
  have hm : request.method ∈ ["GET", "HEAD", "POST"] := by decide
  have hpath : DownloadPath.IsPathOf request.path "b" := ⟨by decide, by decide, .inl rfl⟩
  have hi : (c.authenticate request).value = .ok ⟨"alice", .apiKey⟩ := by decide +kernel
  have hstatus : (respond c request).value.status = 404 := by decide +kernel
  obtain ⟨entry, -, honly, ⟨hannounced, htold, huser, hblob⟩, -⟩ := outcome_recorded_once c hm hpath
  rw [hstatus] at hannounced htold
  rw [hi] at huser
  have hrejected : entry.level = .info ∧ entry.message = "Request rejected" := by
    generalize entry.level = level, entry.message = message at hannounced
    cases hannounced
    exact ⟨rfl, rfl⟩
  exact ⟨hm, hpath, entry, honly (service.discreet 0 _ _ request), hstatus, hrejected.1, hrejected.2, htold, huser, hblob⟩

end Gateway

end DownloadGateway
