import DownloadGateway.Proofs.DownloadPath.Agreement
import DownloadGateway.Proofs.Gateway.Outcome
import DownloadGateway.Proofs.Gateway.ResponseHeaders
/-!
# Routes and resolvers

An endpoint runs for the paths in which the resolvers find a blob, and for those that lack one
between two slashes (`LacksBlob`). There, and nowhere else, a request fails because its path is no
download path. Whatever leads to no endpoint is turned away without asking anybody.
-/

namespace DownloadGateway

namespace DownloadPath

variable {path path' : String}

theorem rawBlobId?_eq_none_iff : rawBlobId? path = none ↔ ∀ blob, ¬IsPathOf path blob := by
  simp only [← rawBlobId?_eq_some_iff, Option.eq_none_iff_forall_ne_some, ne_eq]

theorem notDownload_inj (h : notDownload path = notDownload path') : path = path' :=
  (String.append_right_inj _).1 (Failure.badRequest.inj h).1

theorem blobIdOf_eq_notDownload_iff :
    blobIdOf path = .error (notDownload path') ↔ path' = path ∧ rawBlobId? path = none := by
  rw [blobIdOf_eq_error_iff, rawBlobId?_eq_none_iff]
  exact and_congr_left' ⟨notDownload_inj, congrArg notDownload⟩

theorem resolve_eq_notDownload_iff :
    resolve path = .error (notDownload path') ↔ path' = path ∧ rawBlobId? path = none := by
  rw [rawBlobId?_eq_none_iff]
  constructor
  · intro h
    rcases resolve_eq_error_iff.1 h with ⟨hpath, hno⟩ | ⟨_, _, -, hname⟩
    · exact ⟨notDownload_inj hpath, hno⟩
    · obtain ⟨causes, hf⟩ := of_decodeName_eq_error hname
      exact absurd hf (notDownload_ne (by decide) path' causes)
  · rintro ⟨rfl, hno⟩
    exact resolve_of_no_path hno

end DownloadPath

namespace Gateway

variable {σ : Type} {c : Collaborators σ} {request : Http.Request} {path action : String} {identity : Identity}
  {serve : Identity → Step (Http.Response σ)} {endpoint : Endpoint} {failure : Failure}

/-! ## Failures over the path -/

/-- A store never blames the client. -/
theorem status_toFailure_ne_malformed (e : StorageError) : e.toFailure.status ≠ 400 := by
  cases e <;> simp [StorageError.toFailure, StorageError.asCause, Failure.status]

/-- Behind its path a download does not fail by a fault of the client. -/
theorem resolve_of_malformed (h : (serveBlob c path identity).run.value = .error failure) (hf : failure.status = 400) :
    DownloadPath.resolve path = .error failure := by
  cases hp : DownloadPath.resolve path with
  | error f =>
    rw [serveBlob_of_unresolved hp] at h
    cases h
    rfl
  | ok target =>
    rw [serveBlob_of_resolved hp] at h
    cases hr : (c.store.retrieve target.blobId identity).value with
    | error e =>
      rw [downloadFrom_of_not_retrieved hr] at h
      cases h
      exact absurd hf (status_toFailure_ne_malformed e)
    | ok blob =>
      cases ho : blob.content with
      | error e =>
        rw [downloadFrom_of_not_opened hr ho] at h
        cases h
        exact absurd hf (status_toFailure_ne_malformed e)
      | ok source =>
        rw [downloadFrom_of_opened hr ho] at h
        by_cases hlegal : Http.isLegalValue (Utf8.encode blob.contentType) = true
        · rw [streamResponse_of_legal hlegal] at h
          cases h
        · rw [streamResponse_of_illegal hlegal] at h
          cases h
          cases hf

/-- Nor does a request for a token. -/
theorem blobIdOf_of_malformed (h : (serveToken c path identity).run.value = .error failure) (hf : failure.status = 400) :
    DownloadPath.blobIdOf path = .error failure := by
  cases hp : DownloadPath.blobIdOf path with
  | error f =>
    rw [serveToken_of_unresolved hp] at h
    cases h
    rfl
  | ok blobId =>
    rw [serveToken_of_resolved hp] at h
    cases hs : (c.store.contains blobId identity).value with
    | error e =>
      rw [tokenFrom_of_store_error hs] at h
      cases h
      exact absurd hf (status_toFailure_ne_malformed e)
    | ok found =>
      cases found with
      | false =>
        rw [tokenFrom_of_missing hs] at h
        cases h
        cases hf
      | true =>
        cases hg : c.generate identity.user blobId with
        | error e =>
          rw [tokenFrom_of_token_error hs hg] at h
          cases h
          cases e <;> cases hf
        | ok token =>
          rw [tokenFrom_of_issued hs hg] at h
          cases h

/-- A request fails because its path is no download path exactly if it is authenticated and no
resolver finds a blob in its path. -/
theorem Serves.notDownload_iff (h : Serves c request action serve) :
    outcomeOf c request serve = .error (DownloadPath.notDownload path) ↔
      path = request.path ∧ DownloadPath.rawBlobId? request.path = none ∧
        ∃ identity, (c.authenticate request).value = .ok identity := by
  cases ha : (c.authenticate request).value with
  | error e =>
    rw [outcomeOf_of_rejected ha]
    simp [AuthError.toFailure, DownloadPath.notDownload]
  | ok identity =>
    rw [outcomeOf_of_authenticated ha]
    simp only [Except.ok.injEq, exists_eq', and_true]
    -- The failure is a 400, and no stage behind the path fails with that.
    cases h with
    | download hm =>
      rw [← DownloadPath.resolve_eq_notDownload_iff]
      refine ⟨fun hf => resolve_of_malformed hf rfl, fun hp => ?_⟩
      rw [serveBlob_of_unresolved hp]
    | issueToken hm =>
      rw [← DownloadPath.blobIdOf_eq_notDownload_iff]
      refine ⟨fun hf => blobIdOf_of_malformed hf rfl, fun hp => ?_⟩
      rw [serveToken_of_unresolved hp]

/-! ## What runs for a request -/

/-- An endpoint runs for a request if the request is led to it. -/
def Runs (request : Http.Request) (endpoint : Endpoint) : Prop :=
  ∃ route, destination request = .endpoint route ∧ route.endpoint = endpoint

/-- The paths that are routed are those in which the resolvers find a blob, and those that lack one. -/
theorem routed_iff_rawBlobId? : Routed path ↔ DownloadPath.rawBlobId? path ≠ none ∨ LacksBlob path := by
  rw [Routed, Option.ne_none_iff_exists']
  simp only [DownloadPath.rawBlobId?_eq_some_iff]

theorem LacksBlob.rawBlobId?_eq_none (h : LacksBlob path) : DownloadPath.rawBlobId? path = none :=
  DownloadPath.rawBlobId?_eq_none_iff.2 h.not_isPathOf

theorem runs_iff : Runs request endpoint ↔ Routed request.path ∧ request.method ∈ endpoint.methods := by
  constructor
  · rintro ⟨route, hd, rfl⟩
    obtain ⟨hpath, hm, -⟩ := of_destination hd
    exact ⟨hpath, hm⟩
  · rintro ⟨hpath, hm⟩
    obtain ⟨shape, hd⟩ := (destination_of_routed hpath).1 endpoint hm
    exact ⟨_, hd, rfl⟩

/-- What the gateway tells of a request: how it ended, in the log and by the status of its response. -/
structure EndsWith (c : Collaborators σ) (request : Http.Request) (context : RequestContext)
    (outcome : Except Failure (Http.Response σ)) : Prop where
  recorded : .log (entryOf context outcome) ∈ (respond c request).events
  status : (respond c request).value.status = (responseOf outcome).status

theorem Serves.endsWith (h : Serves c request action serve) (hpath : Routed request.path) :
    EndsWith c request (contextOf action c request) (outcomeOf c request serve) := by
  refine ⟨?_, h.status_respond hpath⟩
  rw [h.respond_eq hpath, handle_eq, Traced.events_bind]
  simp

theorem Serves.run_of_no_blob (h : Serves c request action serve) (hblob : DownloadPath.rawBlobId? request.path = none)
    (identity : Identity) : (serve identity).run = ⟨.error (DownloadPath.notDownload request.path), []⟩ := by
  cases h with
  | download hm => exact serveBlob_of_unresolved (DownloadPath.resolve_eq_notDownload_iff.2 ⟨rfl, hblob⟩)
  | issueToken hm => exact serveToken_of_unresolved (DownloadPath.blobIdOf_eq_notDownload_iff.2 ⟨rfl, hblob⟩)

/-- Where no resolver finds a blob, nobody but the authenticator is asked. -/
theorem Serves.calls_of_no_blob (h : Serves c request action serve) (hpath : Routed request.path)
    (hblob : DownloadPath.rawBlobId? request.path = none) :
    Event.calls (respond c request).events = .authenticate :: Event.calls (c.authenticate request).events := by
  have hresponse : ∃ f, (handle action c request serve).value = .ofFailure f ∧
      Event.calls (handle action c request serve).events = .authenticate :: Event.calls (c.authenticate request).events := by
    cases ha : (c.authenticate request).value with
    | error e =>
      rw [handle_of_rejected ha]
      exact ⟨e.toFailure, rfl, by simp⟩
    | ok identity =>
      rw [handle_of_authenticated ha, h.run_of_no_blob hblob]
      exact ⟨DownloadPath.notDownload request.path, rfl, by simp⟩
  obtain ⟨f, hvalue, hcalls⟩ := hresponse
  obtain ⟨content, hbody⟩ := Http.Response.body_ofFailure (σ := σ) f
  rw [h.respond_eq hpath, Traced.events_bind, hvalue,
    withoutBody_of_bytes ((dressed_body c.cors .decorate _).trans hbody), List.append_nil, hcalls]

/-- A request that leads nowhere is answered at once: nobody is asked, and nothing is recorded. -/
structure Dismissed (c : Collaborators σ) (request : Http.Request) (status : Nat) : Prop where
  status : (respond c request).value.status = status
  events : (respond c request).events = []

/-- A path that leads nowhere. -/
theorem dismissed_of_path (hpath : ¬Routed request.path) (hhealth : request.path ≠ "/health") : Dismissed c request 404 := by
  have hd := dispatched request
  generalize hdestination : destination request = d at hd
  have hstatus := status_respond c request
  rw [hdestination] at hstatus
  cases hd with
  | endpoint hrouted | wrongMethod hrouted => exact absurd hrouted hpath
  | health h | healthMethod h => exact absurd h hhealth
  | nowhere => exact ⟨hstatus, events_of_no_endpoint (by simp [hdestination])⟩
  | noPath => exact ⟨hstatus.trans (Http.Response.status_withLength _), events_of_no_endpoint (by simp [hdestination])⟩

/-- A path that leads to endpoints, but by other methods. -/
theorem dismissed_of_method (hpath : Routed request.path) (hm : ∀ endpoint : Endpoint, request.method ∉ endpoint.methods) :
    Dismissed c request 405 := by
  have hd := (destination_of_routed hpath).2 hm
  have hstatus := status_respond c request
  rw [hd] at hstatus
  exact ⟨hstatus.trans (Http.Response.status_withLength _), events_of_no_endpoint (by simp [hd])⟩

/-- What runs for a request is told by its path and its method: an endpoint, on the paths in which
the resolvers find a blob and on those that lack one. The log has the blob of the former; the
latter, and no others, fail for whoever is authenticated because they are no download paths, and
before anything is asked of the store or the token factory. On these paths other methods are a 405,
all other paths but that of the health check are a 404, and nobody is asked for either. The headers
that keep browsers and caches in check are on every response, each of them once. -/
theorem endpoints_agree_with_resolvers (c : Collaborators σ) (request : Http.Request) :
    let blob := DownloadPath.rawBlobId? request.path
    (LacksBlob request.path → blob = none) ∧
    (∀ endpoint, Runs request endpoint ↔ (blob ≠ none ∨ LacksBlob request.path) ∧ request.method ∈ endpoint.methods) ∧
    (∀ action serve, Serves c request action serve → (blob ≠ none ∨ LacksBlob request.path) →
      let context := contextOf action c request
      let outcome := outcomeOf c request serve
      EndsWith c request context outcome ∧ context.blobId = blob ∧
        (∀ path, outcome = .error (DownloadPath.notDownload path) ↔
          path = request.path ∧ LacksBlob request.path ∧ ∃ identity, (c.authenticate request).value = .ok identity) ∧
        (LacksBlob request.path →
          Event.calls (respond c request).events = .authenticate :: Event.calls (c.authenticate request).events)) ∧
    (blob = none → ¬LacksBlob request.path → request.path ≠ "/health" → Dismissed c request 404) ∧
    (blob ≠ none ∨ LacksBlob request.path → (∀ endpoint : Endpoint, request.method ∉ endpoint.methods) →
      Dismissed c request 405) ∧
    Secured (respond c request).value.headers := by
  intro blob
  have hrouted : Routed request.path ↔ blob ≠ none ∨ LacksBlob request.path := routed_iff_rawBlobId?
  refine ⟨LacksBlob.rawBlobId?_eq_none, fun _ => runs_iff.trans (and_congr_left' hrouted), ?_, ?_, ?_, secured_respond c request⟩
  · intro action serve hserves hpath
    refine ⟨hserves.endsWith (hrouted.2 hpath), rfl, fun path => ?_, fun hlacks => ?_⟩
    · rw [hserves.notDownload_iff]
      have hlacks : DownloadPath.rawBlobId? request.path = none ↔ LacksBlob request.path :=
        ⟨fun hnone => hpath.resolve_left (not_not.2 hnone), LacksBlob.rawBlobId?_eq_none⟩
      exact and_congr_right' (and_congr_left' hlacks)
    · exact hserves.calls_of_no_blob (hrouted.2 hpath) hlacks.rawBlobId?_eq_none
  · intro hnone hlacks
    exact dismissed_of_path fun h => (hrouted.1 h).elim (· hnone) hlacks
  · exact fun hpath => dismissed_of_method (hrouted.2 hpath)

/-- A download of nothing: no resolver finds a blob in the path, but an endpoint runs, and says so. -/
theorem endpoint_without_blob :
    let service : Service := ⟨[("alice", "key")], ⟨[1], 300⟩, ⟨true, []⟩⟩
    let request : Http.Request := ⟨"GET", "/download//x", none, [("authorization", Utf8.encode "Bearer key")]⟩
    let c := service.collaborators 0 ((Repository.memory .empty).toStore .empty)
    DownloadPath.rawBlobId? request.path = none ∧ request.path ≠ "/health" ∧ Runs request .download ∧
      (respond c request).value.status = 400 ∧
      (respond c request).value.body = .bytes (Utf8.encode "Not a download path: /download//x") ∧
      (contextOf "download" c request).blobId = none := by
  intro service request c
  have hpath : Routed request.path := .inr ⟨"x", by decide, by decide, by decide⟩
  have hblob : DownloadPath.rawBlobId? request.path = none := by decide
  have hi : (c.authenticate request).value = .ok ⟨"alice", .apiKey⟩ := by decide +kernel
  have hserves : Serves c request "download" (serveBlob c request.path) := .download (.inl rfl)
  have houtcome : outcomeOf c request (serveBlob c request.path) = .error (DownloadPath.notDownload request.path) :=
    hserves.notDownload_iff.2 ⟨rfl, hblob, _, hi⟩
  refine ⟨hblob, by decide, runs_iff.2 ⟨hpath, by decide⟩, ?_, ?_, hblob⟩
  · rw [hserves.status_respond hpath, houtcome]
    rfl
  · rw [hserves.respond_eq hpath, handle_eq, houtcome, Traced.value_bind, withoutBody_of_ne_head (by decide), dressed_body]
    rfl

end Gateway

end DownloadGateway
