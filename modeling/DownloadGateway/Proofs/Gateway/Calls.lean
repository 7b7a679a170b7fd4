import DownloadGateway.Proofs.Gateway.Events
/-!
# The calls of a request

`Makes` lists the calls that answering a request can lead to, each with what must hold
for it to be made. What is proved of calls is a case analysis over it.
-/

namespace DownloadGateway.Gateway

variable {σ : Type}

/-- A call that answering a request can lead to. -/
inductive Makes (c : Collaborators σ) (request : Http.Request) : Call → Prop
  | authenticate : Makes c request .authenticate
  | attempt {call} (h : call ∈ Event.calls (c.authenticate request).events) : Makes c request call
  | retrieve {identity blobId} (hi : (c.authenticate request).value = .ok identity)
      (hb : DownloadPath.IsPathOf request.path blobId.value) : Makes c request (.retrieve identity blobId)
  | contains {identity blobId} (hm : request.method = "POST")
      (hi : (c.authenticate request).value = .ok identity)
      (hb : DownloadPath.IsPathOf request.path blobId.value) : Makes c request (.contains identity blobId)
  | generateToken {identity blobId} (hm : request.method = "POST")
      (hi : (c.authenticate request).value = .ok identity)
      (hb : DownloadPath.IsPathOf request.path blobId.value) :
      Makes c request (.generateToken identity.user blobId)
  /-- The store's own, while it answers. -/
  | store {call blobId identity}
      (h : call ∈ Event.calls (c.store.retrieve blobId identity).events ∨
        call ∈ Event.calls (c.store.contains blobId identity).events) : Makes c request call
  | openContent : Makes c request .openContent
  | closeContent : Makes c request .closeContent

variable {c : Collaborators σ} {request : Http.Request} {identity : Identity} {call : Call}

theorem calls_release (s : BlobStream σ) (completed : Bool) :
    Event.calls (s.release completed) = [.closeContent] := rfl

theorem call_of_mem_release {s : BlobStream σ} (h : .call call ∈ s.release false) : call = .closeContent :=
  List.mem_singleton.1 (Event.mem_calls.2 h)

/-- An endpoint is asked for nobody but the one who was authenticated. -/
theorem calls_handle {action : String} {serve : Identity → Step (Http.Response σ)}
    (h : call ∈ Event.calls (handle action c request serve).events) :
    call = .authenticate ∨ call ∈ Event.calls (c.authenticate request).events ∨
      ∃ identity, (c.authenticate request).value = .ok identity ∧
        call ∈ Event.calls (serve identity).run.events := by
  rw [handle_eq, Event.calls_append, Event.calls_cons_log, Event.calls_nil, List.append_nil, Event.mem_calls] at h
  simp only [Event.mem_calls]
  rcases mem_workOf h with h | h | ⟨identity, hi, h | h⟩
  · exact .inl (Event.call.inj h)
  · exact .inr (.inl h)
  · cases h
  · exact .inr (.inr ⟨identity, hi, h⟩)

theorem makes_of_serveBlob (hi : (c.authenticate request).value = .ok identity)
    (h : call ∈ Event.calls (serveBlob c request.path identity).run.events) : Makes c request call := by
  obtain ⟨blobId, hpath, h | h | h | ⟨s, h⟩⟩ := mem_serveBlob (Event.mem_calls.1 h)
  · cases h
    exact .retrieve hi hpath
  · exact .store (.inl (Event.mem_calls.2 h))
  · cases h
    exact .openContent
  · rw [call_of_mem_release h]
    exact .closeContent

theorem makes_of_serveToken (hm : request.method = "POST")
    (hi : (c.authenticate request).value = .ok identity)
    (h : call ∈ Event.calls (serveToken c request.path identity).run.events) : Makes c request call := by
  obtain ⟨blobId, hpath, h | h | h | h⟩ := mem_serveToken (Event.mem_calls.1 h)
  · cases h
    exact .contains hm hi hpath
  · exact .store (.inr (Event.mem_calls.2 h))
  · cases h
    exact .generateToken hm hi hpath
  · cases h

theorem makes_of_runEndpoint {route : Route} (hd : destination request = .endpoint route)
    (h : call ∈ Event.calls (runEndpoint c request route.endpoint).events) : Makes c request call := by
  obtain ⟨-, hm, -⟩ := of_destination hd
  cases he : route.endpoint with
  | preflight =>
    rw [he] at h
    simp [runEndpoint] at h
  | download =>
    rw [he] at h
    rcases calls_handle h with rfl | h | ⟨identity, hi, h⟩
    · exact .authenticate
    · exact .attempt h
    · exact makes_of_serveBlob hi h
  | issueToken =>
    rw [he] at h hm
    have hpost : request.method = "POST" := by simpa [Endpoint.methods] using hm
    rcases calls_handle h with rfl | h | ⟨identity, hi, h⟩
    · exact .authenticate
    · exact .attempt h
    · exact makes_of_serveToken hpost hi h

/-- Nothing is called but what the cases of `Makes` allow. -/
theorem makes_of_respond (h : call ∈ Event.calls (respond c request).events) : Makes c request call := by
  rw [respond, Traced.events_bind, Event.calls_append, List.mem_append] at h
  rcases h with h | h
  · cases hd : destination request with
    | endpoint route =>
      rw [hd, serve, Traced.events_bind, Event.calls_append, List.mem_append] at h
      rcases h with h | h
      · exact makes_of_runEndpoint hd h
      · simp at h
    | _ => simp [hd, serve] at h
  · rw [Traced.events_bind, Event.calls_append, List.mem_append] at h
    rcases h with h | h
    · obtain ⟨s, hs⟩ := mem_withoutBody (Event.mem_calls.1 h)
      rw [call_of_mem_release hs]
      exact .closeContent
    · simp at h

/-! ## What the store is asked -/

theorem handle_congr {store : BlobStore σ} {action : String} {serve serve' : Identity → Step (Http.Response σ)}
    (h : ∀ identity, (c.authenticate request).value = .ok identity →
      (serve identity).run = (serve' identity).run) :
    handle action { c with store } request serve = handle action c request serve' := by
  cases ha : (c.authenticate request).value with
  | error e =>
    have ha' : (({ c with store } : Collaborators σ).authenticate request).value = .error e := ha
    rw [handle_of_rejected ha, handle_of_rejected ha']
  | ok identity =>
    have ha' : (({ c with store } : Collaborators σ).authenticate request).value = .ok identity := ha
    rw [handle_of_authenticated ha, handle_of_authenticated ha', h identity ha]

/-- What an endpoint does for the one who was authenticated is among what is recorded. -/
theorem mem_calls_handle {action : String} {serve : Identity → Step (Http.Response σ)}
    (hi : (c.authenticate request).value = .ok identity)
    (h : call ∈ Event.calls (serve identity).run.events) :
    call ∈ Event.calls (handle action c request serve).events := by
  rw [handle_of_authenticated hi]
  simp [h]

theorem retrieve_mem_serveBlob {path : String} {target : DownloadPath}
    (hp : DownloadPath.resolve path = .ok target) :
    .retrieve identity target.blobId ∈ Event.calls (serveBlob c path identity).run.events := by
  rw [serveBlob_of_resolved hp]
  exact List.mem_cons_self ..

theorem contains_mem_serveToken {path : String} {blobId : BlobId}
    (hp : DownloadPath.blobIdOf path = .ok blobId) :
    .contains identity blobId ∈ Event.calls (serveToken c path identity).run.events := by
  rw [serveToken_of_resolved hp]
  exact List.mem_cons_self ..

/-- Whoever asks for a blob has the store asked for it. -/
theorem retrieve_mem_calls {target : DownloadPath} (hmethod : request.method = "GET")
    (hi : (c.authenticate request).value = .ok identity) (hp : DownloadPath.resolve request.path = .ok target) :
    .retrieve identity target.blobId ∈ Event.calls (respond c request).events := by
  rw [respond_download hmethod (DownloadPath.isPathOf_of_resolve hp), Traced.events_map]
  exact mem_calls_handle hi (retrieve_mem_serveBlob hp)

theorem serveBlob_congr_store {store : BlobStore σ} {path : String}
    (h : ∀ target, DownloadPath.resolve path = .ok target →
      store.retrieve target.blobId identity = c.store.retrieve target.blobId identity) :
    (serveBlob { c with store } path identity).run = (serveBlob c path identity).run := by
  cases hp : DownloadPath.resolve path with
  | error f => rw [serveBlob_of_unresolved hp, serveBlob_of_unresolved hp]
  | ok target => rw [serveBlob_of_resolved hp, serveBlob_of_resolved hp, h target hp]

theorem serveToken_congr_store {store : BlobStore σ} {path : String}
    (h : ∀ blobId, DownloadPath.blobIdOf path = .ok blobId →
      store.contains blobId identity = c.store.contains blobId identity) :
    (serveToken { c with store } path identity).run = (serveToken c path identity).run := by
  cases hp : DownloadPath.blobIdOf path with
  | error f => rw [serveToken_of_unresolved hp, serveToken_of_unresolved hp]
  | ok blobId =>
    rw [serveToken_of_resolved hp, serveToken_of_resolved hp, h blobId hp]
    rfl

/-- The store is asked nothing that is not recorded: one that agrees on the recorded
questions gives the same response and the same events. -/
theorem respond_congr_store {store : BlobStore σ} (hbackend : store.backend = c.store.backend)
    (hretrieve : ∀ identity blobId, .retrieve identity blobId ∈ Event.calls (respond c request).events →
      store.retrieve blobId identity = c.store.retrieve blobId identity)
    (hcontains : ∀ identity blobId, .contains identity blobId ∈ Event.calls (respond c request).events →
      store.contains blobId identity = c.store.contains blobId identity) :
    respond { c with store } request = respond c request := by
  suffices h : serve { c with store } request (destination request) =
      serve c request (destination request) by
    rw [respond, respond, h]
  have recorded : ∀ {call}, call ∈ Event.calls (serve c request (destination request)).events →
      call ∈ Event.calls (respond c request).events := by
    intro call h
    rw [respond, Traced.events_bind, Event.calls_append]
    exact List.mem_append_left _ h
  cases hd : destination request with
  | health => simp only [serve, hbackend]
  | endpoint route =>
    rw [hd] at recorded
    have recorded' : ∀ {call}, call ∈ Event.calls (runEndpoint c request route.endpoint).events →
        call ∈ Event.calls (respond c request).events := by
      intro call h
      refine recorded ?_
      rw [serve, Traced.events_bind, Event.calls_append]
      exact List.mem_append_left _ h
    suffices h : runEndpoint { c with store } request route.endpoint =
        runEndpoint c request route.endpoint by
      rw [serve, serve, h]
    cases he : route.endpoint with
    | preflight => rfl
    | download =>
      rw [he] at recorded'
      refine handle_congr fun identity hi => serveBlob_congr_store fun target hp => ?_
      exact hretrieve _ _ (recorded' (mem_calls_handle hi (retrieve_mem_serveBlob hp)))
    | issueToken =>
      rw [he] at recorded'
      refine handle_congr fun identity hi => serveToken_congr_store fun blobId hp => ?_
      exact hcontains _ _ (recorded' (mem_calls_handle hi (contains_mem_serveToken hp)))
  | _ => rfl

end DownloadGateway.Gateway
