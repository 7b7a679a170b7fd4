import DownloadGateway.Proofs.Authentication
import DownloadGateway.Proofs.Gateway.Events
/-!
# What credentials decide

A request's credentials are looked at by the authenticator and by nobody else. Two requests that
differ in nothing but their credentials are told apart by whoever they are found to be from; if
that is the same, everything behind the authentication is the same, and if both are turned away,
the client cannot tell why.
-/

namespace DownloadGateway

namespace Service

variable {service : Service} {clock : Int} {request request' : Http.Request} {identity : Identity}

/-- Whoever is known by a key is known without a further call. -/
theorem authenticate_of_key (h : ((service.strategy clock).authenticate request).value = .ok identity)
    (hm : identity.method = .apiKey) : (service.strategy clock).authenticate request = pure (.ok identity) := by
  obtain ⟨hheader, houtcome⟩ := of_authenticate_key h hm
  rw [authenticate_eq, if_neg hheader, houtcome]

/-- Whoever is known by a token has it checked for the blob of the path. -/
theorem authenticate_of_token (h : ((service.strategy clock).authenticate request).value = .ok identity)
    (hm : identity.method = .attachmentToken) :
    ∃ blobId, DownloadPath.IsPathOf request.path blobId.value ∧
      (service.strategy clock).authenticate request = ⟨.ok identity, [.call (.verifyToken blobId)]⟩ := by
  obtain ⟨hget, hheader, text, blobId, token, hvalues, hpath, -, -⟩ := of_authenticate_token h hm
  have hpresented : TokenQuery.presented request = .ok text := TokenQuery.presented_eq_ok_iff.2 ⟨hget, hvalues⟩
  have hrequested : TokenQuery.requested request = .ok blobId := TokenQuery.requested_eq_ok_iff.2 hpath
  rw [authenticate_eq, if_pos hheader, TokenQuery.authenticate_of_presented hpresented hrequested] at h ⊢
  exact ⟨blobId, hpath, congrArg (Traced.mk · _) h⟩

/-- The same identity at the same path is found in the same way. -/
theorem authenticate_congr (hpath : request.path = request'.path)
    (h : ((service.strategy clock).authenticate request).value = .ok identity)
    (h' : ((service.strategy clock).authenticate request').value = .ok identity) :
    (service.strategy clock).authenticate request = (service.strategy clock).authenticate request' := by
  cases hm : identity.method with
  | apiKey => rw [authenticate_of_key h hm, authenticate_of_key h' hm]
  | attachmentToken =>
    obtain ⟨blobId, hblob, hanswer⟩ := authenticate_of_token h hm
    obtain ⟨blobId', hblob', hanswer'⟩ := authenticate_of_token h' hm
    rw [hpath] at hblob
    rw [hanswer, hanswer', BlobId.ext (hblob.unique hblob')]

end Service

namespace Gateway

variable {σ : Type} {c : Collaborators σ} {r r' : Http.Request} {identity : Identity} {e e' : AuthError}

/-! ## What is looked at apart from credentials -/

theorem destination_congr (hm : r.method = r'.method) (hpath : r.path = r'.path) : destination r = destination r' := by
  simp only [destination, hm, hpath]

theorem ofRequest_congr (hm : r.method = r'.method) (hpath : r.path = r'.path) (action : String) :
    RequestContext.ofRequest action r = RequestContext.ofRequest action r' := by
  simp only [RequestContext.ofRequest, hm, hpath]

/-! ## The authentication -/

/-- What happens while an endpoint finds out who sent a request. Preflights are not asked for it. -/
def asking (c : Collaborators σ) (request : Http.Request) : Endpoint → List Event
  | .preflight => []
  | .download | .issueToken => .call .authenticate :: (c.authenticate request).events

/-- What happens while the gateway finds out who sent a request. -/
def authenticationOf (c : Collaborators σ) (request : Http.Request) : List Event :=
  match destination request with
  | .endpoint route => asking c request route.endpoint
  | _ => []

/-- Whether the gateway asks who sent a request. -/
def Asks (request : Http.Request) : Prop :=
  ∃ route, destination request = .endpoint route ∧ route.endpoint ≠ .preflight

theorem asks_of_isPathOf {blob : String} (hm : r.method ∈ ["GET", "HEAD", "POST"])
    (hpath : DownloadPath.IsPathOf r.path blob) : Asks r := by
  have hendpoint : ∃ endpoint : Endpoint, endpoint ≠ .preflight ∧ r.method ∈ endpoint.methods := by
    simp only [List.mem_cons, List.not_mem_nil, or_false] at hm
    rcases hm with hm | hm | hm
    · exact ⟨.download, by decide, by simp [Endpoint.methods, hm]⟩
    · exact ⟨.download, by decide, by simp [Endpoint.methods, hm]⟩
    · exact ⟨.issueToken, by decide, by simp [Endpoint.methods, hm]⟩
  obtain ⟨endpoint, hpre, hmem⟩ := hendpoint
  obtain ⟨shape, hd⟩ := (destination_of_routed (.inl ⟨_, hpath⟩)).1 endpoint hmem
  exact ⟨_, hd, hpre⟩

/-! ## The same identity -/

/-- Two runs that begin differently and then do the same. -/
def SameBehind {α : Type} (front front' : List Event) (x x' : Traced α) : Prop :=
  ∃ value rest, x = ⟨value, front ++ rest⟩ ∧ x' = ⟨value, front' ++ rest⟩

theorem SameBehind.bind {α β : Type} {front front' : List Event} {x x' : Traced α} {f f' : α → Traced β}
    (h : SameBehind front front' x x') (hf : ∀ a, f a = f' a) : SameBehind front front' (x >>= f) (x' >>= f') := by
  obtain ⟨value, rest, rfl, rfl⟩ := h
  refine ⟨(f value).value, rest ++ (f value).events, ?_, ?_⟩
  · rw [← List.append_assoc]
    rfl
  · rw [hf, ← List.append_assoc]
    rfl

theorem handle_of_same {action : String} {serve serve' : Identity → Step (Http.Response σ)} (hm : r.method = r'.method)
    (hpath : r.path = r'.path) (hserve : serve = serve') (h : (c.authenticate r).value = .ok identity)
    (h' : (c.authenticate r').value = .ok identity) :
    SameBehind (.call .authenticate :: (c.authenticate r).events) (.call .authenticate :: (c.authenticate r').events)
      (handle action c r serve) (handle action c r' serve') := by
  rw [handle_of_authenticated h, handle_of_authenticated h', ofRequest_congr hm hpath, hserve, List.append_assoc,
    List.append_assoc]
  exact ⟨_, _, rfl, rfl⟩

theorem preflight_congr (horigin : r.headers.get? "origin" = r'.headers.get? "origin") (policy : CorsPolicy) :
    (preflight policy r : Http.Response σ) = preflight policy r' := by
  rw [preflight, preflight, CorsPolicy.apply_congr horigin]

theorem runEndpoint_of_same (hm : r.method = r'.method) (hpath : r.path = r'.path)
    (horigin : r.headers.get? "origin" = r'.headers.get? "origin") (h : (c.authenticate r).value = .ok identity)
    (h' : (c.authenticate r').value = .ok identity) (endpoint : Endpoint) :
    SameBehind (asking c r endpoint) (asking c r' endpoint) (runEndpoint c r endpoint) (runEndpoint c r' endpoint) := by
  cases endpoint with
  | preflight =>
    rw [runEndpoint, runEndpoint, preflight_congr horigin]
    exact ⟨_, [], rfl, rfl⟩
  | download => exact handle_of_same hm hpath (congrArg (serveBlob c) hpath) h h'
  | issueToken => exact handle_of_same hm hpath (congrArg (serveToken c) hpath) h h'

/-- Where no endpoint answers, nothing but the method and the path is looked at. -/
theorem respond_congr_of_no_endpoint (hm : r.method = r'.method) (hpath : r.path = r'.path)
    (h : ∀ route, destination r ≠ .endpoint route) : respond c r = respond c r' := by
  rw [respond, respond, ← destination_congr hm hpath]
  have hserve : serve c r (destination r) = serve c r' (destination r) := by
    cases hd : destination r with
    | endpoint route => exact absurd hd (h route)
    | _ => rfl
  rw [hserve]
  simp only [withoutBody_congr_request hm]

theorem respond_of_same (hm : r.method = r'.method) (hpath : r.path = r'.path)
    (horigin : r.headers.get? "origin" = r'.headers.get? "origin") (h : (c.authenticate r).value = .ok identity)
    (h' : (c.authenticate r').value = .ok identity) :
    SameBehind (authenticationOf c r) (authenticationOf c r') (respond c r) (respond c r') := by
  have hdestination := destination_congr hm hpath
  rw [authenticationOf, authenticationOf, ← hdestination]
  cases hd : destination r with
  | endpoint route =>
    rw [respond_of_route hd, respond_of_route (hdestination ▸ hd)]
    refine (runEndpoint_of_same hm hpath horigin h h' route.endpoint).bind fun response => ?_
    rw [dressed_congr horigin, withoutBody_congr_request hm]
  | _ =>
    rw [respond_congr_of_no_endpoint hm hpath (by simp [hd])]
    exact ⟨_, _, rfl, rfl⟩

theorem authenticationOf_congr (hm : r.method = r'.method) (hpath : r.path = r'.path)
    (h : c.authenticate r = c.authenticate r') : authenticationOf c r = authenticationOf c r' := by
  simp only [authenticationOf, destination_congr hm hpath]
  split
  · rename_i route hd
    cases route.endpoint <;> simp only [asking, h]
  · rfl

/-- An assembled service finds out the same identity in the same way, so that the whole of the two
runs is the same. -/
theorem respond_congr_of_same {service : Service} {clock : Int}
    (hc : c.authenticate = (service.strategy clock).authenticate) (hm : r.method = r'.method) (hpath : r.path = r'.path)
    (horigin : r.headers.get? "origin" = r'.headers.get? "origin") (h : (c.authenticate r).value = .ok identity)
    (h' : (c.authenticate r').value = .ok identity) : respond c r = respond c r' := by
  obtain ⟨response, rest, hr, hr'⟩ := respond_of_same hm hpath horigin h h'
  have hsame : c.authenticate r = c.authenticate r' := by
    rw [hc] at h h' ⊢
    exact Service.authenticate_congr hpath h h'
  rw [hr, hr', authenticationOf_congr hm hpath hsame]

/-! ## No identity -/

/-- Why a request is turned away is not said in the response. -/
theorem ofFailure_of_authError (e : AuthError) : (.ofFailure e.toFailure : Http.Response σ) = .bare 401 := rfl

/-- The response of an endpoint to a request that is turned away, unless it is a preflight. -/
def turnedAway (policy : CorsPolicy) (request : Http.Request) : Endpoint → Http.Response σ
  | .preflight => preflight policy request
  | .download | .issueToken => .bare 401

theorem runEndpoint_of_rejected (h : (c.authenticate r).value = .error e) (endpoint : Endpoint) :
    (runEndpoint c r endpoint).value = turnedAway c.cors r endpoint ∧
      Event.calls (runEndpoint c r endpoint).events = Event.calls (asking c r endpoint) := by
  cases endpoint with
  | preflight => exact ⟨rfl, rfl⟩
  | download =>
    rw [runEndpoint, download, handle_of_rejected h]
    exact ⟨ofFailure_of_authError e, by simp [asking]⟩
  | issueToken =>
    rw [runEndpoint, issueToken, handle_of_rejected h]
    exact ⟨ofFailure_of_authError e, by simp [asking]⟩

theorem turnedAway_congr (horigin : r.headers.get? "origin" = r'.headers.get? "origin") (policy : CorsPolicy)
    (endpoint : Endpoint) : (turnedAway policy r endpoint : Http.Response σ) = turnedAway policy r' endpoint := by
  cases endpoint with
  | preflight => exact preflight_congr horigin policy
  | download | issueToken => rfl

theorem body_turnedAway (policy : CorsPolicy) (endpoint : Endpoint) :
    (turnedAway policy r endpoint : Http.Response σ).body = .empty := by
  cases endpoint <;> rfl

theorem value_respond_of_rejected {route : Route} (hd : destination r = .endpoint route)
    (h : (c.authenticate r).value = .error e) :
    (respond c r).value =
      (withoutBody r (dressed c.cors r route.cors (turnedAway c.cors r route.endpoint))).value := by
  rw [respond_of_route hd, Traced.value_bind, (runEndpoint_of_rejected h route.endpoint).1]

/-- Two requests for the same thing that are both turned away are given the same response. -/
theorem respond_value_congr (hm : r.method = r'.method) (hpath : r.path = r'.path)
    (horigin : r.headers.get? "origin" = r'.headers.get? "origin") (h : (c.authenticate r).value = .error e)
    (h' : (c.authenticate r').value = .error e') : (respond c r).value = (respond c r').value := by
  have hdestination := destination_congr hm hpath
  cases hd : destination r with
  | endpoint route =>
    rw [value_respond_of_rejected hd h, value_respond_of_rejected (hdestination ▸ hd) h', turnedAway_congr horigin,
      dressed_congr horigin, withoutBody_congr_request hm]
  | _ => rw [respond_congr_of_no_endpoint hm hpath (by simp [hd])]

/-- Who is turned away is told so with an empty body. -/
theorem respond_of_asks (hasks : Asks r) (h : (c.authenticate r).value = .error e) :
    (respond c r).value.status = 401 ∧ (respond c r).value.body = .empty := by
  obtain ⟨route, hd, hpre⟩ := hasks
  have haway : (turnedAway c.cors r route.endpoint : Http.Response σ) = .bare 401 := by
    cases he : route.endpoint with
    | preflight => exact absurd he hpre
    | download | issueToken => rfl
  rw [value_respond_of_rejected hd h, haway]
  refine ⟨by rw [withoutBody_status, dressed_status]; rfl, ?_⟩
  by_cases hm : r.method = "HEAD"
  · rw [withoutBody_of_head hm]
  · rw [withoutBody_of_ne_head hm, dressed_body]
    rfl

/-- Nothing is called for a request that is turned away, but to find out who sent it. -/
theorem calls_of_rejected (h : (c.authenticate r).value = .error e) :
    Event.calls (respond c r).events = Event.calls (authenticationOf c r) := by
  rw [authenticationOf]
  cases hd : destination r with
  | endpoint route =>
    obtain ⟨hvalue, hcalls⟩ := runEndpoint_of_rejected h route.endpoint
    have hbody : (dressed c.cors r route.cors (turnedAway c.cors r route.endpoint) : Http.Response σ).body = .bytes [] := by
      rw [dressed_body, body_turnedAway]
      rfl
    rw [respond_of_route hd, Traced.events_bind, hvalue, withoutBody_of_bytes hbody, List.append_nil, hcalls]
  | _ => rw [events_of_no_endpoint (by simp [hd])]

theorem call_of_authenticationOf {call : Call} (h : call ∈ Event.calls (authenticationOf c r)) :
    call = .authenticate ∨ call ∈ Event.calls (c.authenticate r).events := by
  unfold authenticationOf at h
  split at h
  · rename_i route hd
    cases he : route.endpoint with
    | preflight =>
      rw [he] at h
      cases h
    | download | issueToken =>
      rw [he] at h
      exact List.mem_cons.1 h
  · cases h

/-- Two requests that agree in method, path and all fields but authorization, with whatever
credentials in their authorization fields and their queries. (1) If they are found to be from the
same identity, they are answered alike, and what happens behind the authentication is the same.
(2) If both are turned away, for whatever reasons, they are given one response, a 401 without a body
where the sender is asked for, and nothing is called but to find out who sent them. (3) For an
assembled service, the same identity makes the whole of two runs the same, and whoever is turned
away causes no call but to the authenticator and to check a token. -/
theorem credentials_decide_identity_only (c : Collaborators σ) (hm : r.method = r'.method) (hpath : r.path = r'.path)
    (hheaders : ∀ name, name ≠ "authorization" → r.headers.values name = r'.headers.values name) :
    (∀ identity, (c.authenticate r).value = .ok identity → (c.authenticate r').value = .ok identity →
      SameBehind (authenticationOf c r) (authenticationOf c r') (respond c r) (respond c r')) ∧
    (∀ e e', (c.authenticate r).value = .error e → (c.authenticate r').value = .error e' →
      (respond c r).value = (respond c r').value ∧
      (Asks r → (respond c r).value.status = 401 ∧ (respond c r).value.body = .empty) ∧
      ∀ request ∈ [r, r'], Event.calls (respond c request).events = Event.calls (authenticationOf c request)) ∧
    ∀ (service : Service) (clock : Int), c.authenticate = (service.strategy clock).authenticate →
      (∀ identity, (c.authenticate r).value = .ok identity → (c.authenticate r').value = .ok identity →
        respond c r = respond c r') ∧
      ∀ e e', (c.authenticate r).value = .error e → (c.authenticate r').value = .error e' →
        ∀ request ∈ [r, r'], ∀ call ∈ Event.calls (respond c request).events,
          call = .authenticate ∨ ∃ blobId, call = .verifyToken blobId := by
  have horigin : r.headers.get? "origin" = r'.headers.get? "origin" := by
    rw [Http.Headers.get?_eq_head?, Http.Headers.get?_eq_head?, hheaders "origin" (by decide)]
  have hcalls : ∀ e e', (c.authenticate r).value = .error e → (c.authenticate r').value = .error e' →
      ∀ request ∈ [r, r'], Event.calls (respond c request).events = Event.calls (authenticationOf c request) := by
    intro e e' h h' request hrequest
    simp only [List.mem_cons, List.not_mem_nil, or_false] at hrequest
    rcases hrequest with rfl | rfl
    · exact calls_of_rejected h
    · exact calls_of_rejected h'
  refine ⟨fun identity => respond_of_same hm hpath horigin, fun e e' h h' => ?_, fun service clock hc => ⟨?_, ?_⟩⟩
  · exact ⟨respond_value_congr hm hpath horigin h h', fun hasks => respond_of_asks hasks h, hcalls e e' h h'⟩
  · exact fun identity => respond_congr_of_same hc hm hpath horigin
  · intro e e' h h' request hrequest call hcall
    rw [hcalls e e' h h' request hrequest] at hcall
    refine (call_of_authenticationOf hcall).imp_right fun hattempt => ?_
    rw [hc] at hattempt
    exact Service.calls_authenticate hattempt

/-- Alice has two keys, and it does not matter with which of them she asks. Whoever has none is not
told whether they gave a wrong one. -/
theorem credentials_decide_identity_only_two_keys :
    let service : Service := ⟨[("alice", "key"), ("alice", "lock")], ⟨[1], 300⟩, ⟨true, []⟩⟩
    let request := fun fields query => (⟨"GET", "/download/b", query, fields⟩ : Http.Request)
    let byKey := request [("authorization", Utf8.encode "Bearer key")] none
    let byLock := request [("authorization", Utf8.encode "Bearer lock")] (some "access_token=1")
    let byNone := request [("authorization", Utf8.encode "Bearer none")] none
    let c := service.collaborators 0 ((Repository.memory .empty).toStore .empty)
    respond c byKey = respond c byLock ∧ (respond c byKey).value.status = 404 ∧
      (respond c byNone).value = (respond c (request [] none)).value ∧ (respond c byNone).value.status = 401 := by
  intro service request byKey byLock byNone c
  have hkey : (c.authenticate byKey).value = .ok ⟨"alice", .apiKey⟩ := by decide +kernel
  have hlock : (c.authenticate byLock).value = .ok ⟨"alice", .apiKey⟩ := by decide +kernel
  have hnone : (c.authenticate byNone).value = .error (.invalid .unknownKey) := by decide +kernel
  have hmissing : (c.authenticate (request [] none)).value = .error .missing := by decide +kernel
  have hfields : ∀ value : Bytes, ∀ name, name ≠ "authorization" →
      Http.Headers.values [("authorization", value)] name = [] := by
    intro value name hname
    simp [Http.Headers.values, Ne.symm hname]
  have hpath : DownloadPath.IsPathOf byNone.path "b" := ⟨by decide, by decide, .inl rfl⟩
  have hasks : Asks byNone := asks_of_isPathOf (by decide) hpath
  obtain ⟨-, -, hservice⟩ := credentials_decide_identity_only c (show byKey.method = byLock.method from rfl)
    (show byKey.path = byLock.path from rfl) fun name hname => (hfields _ name hname).trans (hfields _ name hname).symm
  obtain ⟨-, hrejected, -⟩ := credentials_decide_identity_only c (show byNone.method = (request [] none).method from rfl)
    (show byNone.path = (request [] none).path from rfl) fun name hname => hfields _ name hname
  obtain ⟨hsame, haway, -⟩ := hrejected _ _ hnone hmissing
  exact ⟨(hservice service 0 rfl).1 _ hkey hlock, by decide +kernel, hsame, (haway hasks).1⟩

end Gateway

end DownloadGateway
