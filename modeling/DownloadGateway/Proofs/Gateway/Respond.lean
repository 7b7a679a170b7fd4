import DownloadGateway.Gateway.Service
import DownloadGateway.Proofs.Gateway.Pipeline
import DownloadGateway.Proofs.Gateway.Route
import DownloadGateway.Proofs.Http
/-!
# From the endpoint to the client

On its way out a response is only given more headers, and these do not depend on who
asked. The stores answer by the user, so what a user is served does not depend on how
they were authenticated either.
-/

namespace DownloadGateway

/-! ## Headers -/

theorem CorsPolicy.apply_congr {policy : CorsPolicy} {request request' : Http.Headers}
    (h : request.get? "origin" = request'.get? "origin") (response : Http.Headers) :
    policy.apply request response = policy.apply request' response := by
  have ha : policy.allowed request = policy.allowed request' := by simp only [allowed, h]
  simp only [apply, ha]

/-- The headers that a policy may add. -/
def CorsPolicy.names : List String :=
  ["access-control-allow-origin", "vary", "access-control-allow-methods", "access-control-allow-headers"]

theorem CorsPolicy.values_apply_other {name : String} (hname : name ∉ names) (policy : CorsPolicy)
    (request headers : Http.Headers) : (policy.apply request headers).values name = headers.values name := by
  simp only [names, List.mem_cons, not_or] at hname
  unfold apply
  dsimp only
  split <;> split <;> simp [Ne.symm, hname]

theorem Http.Response.status_withLength {σ : Type} (r : Http.Response σ) :
    r.withLength.status = r.status := by
  unfold Http.Response.withLength
  split <;> rfl

theorem Http.Response.body_withLength {σ : Type} (r : Http.Response σ) : r.withLength.body = r.body := by
  unfold Http.Response.withLength
  split <;> rfl

namespace Gateway

variable {σ : Type} {c : Collaborators σ} {request request' : Http.Request}

/-- The response of an endpoint with all the headers it leaves with. -/
def dressed (policy : CorsPolicy) (request : Http.Request) (role : CorsRole) (response : Http.Response σ) :
    Http.Response σ :=
  let response := (decorate policy request role response).withLength
  { response with headers := secure response.headers }

@[simp] theorem dressed_status (policy : CorsPolicy) (role : CorsRole) (response : Http.Response σ) :
    (dressed policy request role response).status = response.status := by
  rw [dressed, Http.Response.status_withLength]
  cases role <;> rfl

@[simp] theorem dressed_body (policy : CorsPolicy) (role : CorsRole) (response : Http.Response σ) :
    (dressed policy request role response).body = response.body := by
  rw [dressed, Http.Response.body_withLength]
  cases role <;> rfl

theorem dressed_congr (h : request.headers.get? "origin" = request'.headers.get? "origin")
    (policy : CorsPolicy) (role : CorsRole) (response : Http.Response σ) :
    dressed policy request role response = dressed policy request' role response := by
  cases role with
  | decorate => simp only [dressed, decorate, CorsPolicy.apply_congr h]
  | preflight => rfl

/-- The headers that every response is given. -/
def securityNames : List String := ["x-content-type-options", "x-frame-options", "referrer-policy", "cache-control"]

/-- The headers that a response may be given on its way out, apart from the length of its body. -/
def dressing : List String := CorsPolicy.names ++ securityNames

theorem values_secure_other {name : String} (hname : name ∉ securityNames) (headers : Http.Headers) :
    (secure headers).values name = headers.values name := by
  simp only [securityNames, List.mem_cons, not_or] at hname
  unfold secure
  dsimp only
  split <;> simp [Ne.symm, hname]

/-- A body whose length is not known leaves with the headers that its endpoint gave it. -/
theorem values_dressed {name : String} (hname : name ∉ dressing) (policy : CorsPolicy) (role : CorsRole)
    {response : Http.Response σ} (hbody : response.body.length? = none) :
    (dressed policy request role response).headers.values name = response.headers.values name := by
  have hlength : (decorate policy request role response).withLength = decorate policy request role response := by
    have hbody' : (decorate policy request role response).body.length? = none := by
      cases role <;> exact hbody
    rw [Http.Response.withLength, hbody']
    split <;> simp_all
  obtain ⟨hcors, hsecurity⟩ := not_or.1 (mt List.mem_append.2 hname)
  rw [dressed, hlength]
  dsimp only
  rw [values_secure_other hsecurity]
  cases role with
  | decorate => exact CorsPolicy.values_apply_other hcors ..
  | preflight => rfl

/-! ## Asking for the headers alone -/

theorem withoutBody_of_ne_head (hm : request.method ≠ "HEAD") (response : Http.Response σ) :
    withoutBody request response = ⟨response, []⟩ := by
  rw [withoutBody, if_neg hm]
  rfl

theorem withoutBody_of_head (hm : request.method = "HEAD") (response : Http.Response σ) :
    withoutBody request response = ⟨{ response with body := .empty }, response.body.drop.events⟩ := by
  rw [withoutBody, if_pos hm]
  exact Traced.ext rfl (List.append_nil _)

@[simp] theorem withoutBody_status (response : Http.Response σ) :
    (withoutBody request response).value.status = response.status := by
  by_cases hm : request.method = "HEAD"
  · rw [withoutBody_of_head hm]
  · rw [withoutBody_of_ne_head hm]

/-- There is nothing to give back of a body at hand. -/
theorem withoutBody_of_bytes {response : Http.Response σ} {content : Bytes} (h : response.body = .bytes content) :
    (withoutBody request response).events = [] := by
  by_cases hm : request.method = "HEAD"
  · rw [withoutBody_of_head hm, h]
    rfl
  · rw [withoutBody_of_ne_head hm]

/-- Whether a body is dropped does not depend on the headers. -/
theorem withoutBody_congr (request : Http.Request) {response response' : Http.Response σ} (h : response.body = response'.body) :
    (withoutBody request response).events = (withoutBody request response').events ∧
      (withoutBody request response).value.body = (withoutBody request response').value.body := by
  by_cases hm : request.method = "HEAD"
  · rw [withoutBody_of_head hm, withoutBody_of_head hm, h]
    exact ⟨rfl, rfl⟩
  · rw [withoutBody_of_ne_head hm, withoutBody_of_ne_head hm]
    exact ⟨rfl, h⟩

theorem withoutBody_congr_request (h : request.method = request'.method) (response : Http.Response σ) :
    withoutBody request response = withoutBody request' response := by
  simp only [withoutBody, h]

theorem status_respond (c : Collaborators σ) (request : Http.Request) :
    (respond c request).value.status = (serve c request (destination request)).value.status := by
  simp [respond]

theorem events_of_no_endpoint (h : ∀ route, destination request ≠ .endpoint route) : (respond c request).events = [] := by
  have hserve : ∃ response content, serve c request (destination request) = pure response ∧
      response.body = .bytes content := by
    cases hd : destination request with
    | endpoint route => exact absurd hd (h route)
    | nowhere => exact ⟨_, _, rfl, rfl⟩
    | _ => exact ⟨_, _, rfl, Http.Response.body_withLength _⟩
  obtain ⟨response, content, hserve, hbody⟩ := hserve
  rw [respond, hserve, pure_bind, Traced.events_bind, withoutBody_of_bytes hbody]
  rfl

/-! ## What an endpoint answers -/

/-- Where an endpoint answers, its response is given the headers it leaves with, and its body is
dropped if only the headers were asked for. -/
theorem respond_of_route {route : Route} (h : destination request = .endpoint route) :
    respond c request =
      runEndpoint c request route.endpoint >>= fun response =>
        withoutBody request (dressed c.cors request route.cors response) := by
  by_cases hm : request.method = "HEAD"
  · apply Traced.ext <;> simp [respond, serve, h, withoutBody, hm, dressed]
  · apply Traced.ext <;> simp [respond, serve, h, withoutBody, hm, dressed]

/-- On a path that is routed the method alone decides which endpoint answers. -/
theorem respond_of_routed (hpath : Routed request.path) {endpoint : Endpoint} (hm : request.method ∈ endpoint.methods) :
    respond c request =
      runEndpoint c request endpoint >>= fun response =>
        withoutBody request (dressed c.cors request endpoint.corsRole response) := by
  obtain ⟨shape, hd⟩ := (destination_of_routed hpath).1 endpoint hm
  rw [respond_of_route hd]

/-- What an endpoint does is all that happens, unless the body is to be dropped. -/
theorem respond_of_ne_head (hpath : Routed request.path) {endpoint : Endpoint} (hm : request.method ∈ endpoint.methods)
    (hhead : request.method ≠ "HEAD") :
    respond c request = dressed c.cors request endpoint.corsRole <$> runEndpoint c request endpoint := by
  rw [respond_of_routed hpath hm]
  apply Traced.ext <;> simp [withoutBody_of_ne_head hhead]

theorem respond_download {blobId : BlobId} (hm : request.method = "GET")
    (hpath : DownloadPath.IsPathOf request.path blobId.value) :
    respond c request = dressed c.cors request .decorate <$> download c request := by
  have hmem : request.method ∈ Endpoint.download.methods := by simp [Endpoint.methods, hm]
  rw [respond_of_ne_head (.inl ⟨_, hpath⟩) hmem (by simp [hm]), runEndpoint, Endpoint.corsRole]

theorem respond_issueToken {blobId : BlobId} (hm : request.method = "POST")
    (hpath : DownloadPath.IsPathOf request.path blobId.value) :
    respond c request = dressed c.cors request .decorate <$> issueToken c request := by
  have hmem : request.method ∈ Endpoint.issueToken.methods := by simp [Endpoint.methods, hm]
  rw [respond_of_ne_head (.inl ⟨_, hpath⟩) hmem (by simp [hm]), runEndpoint, Endpoint.corsRole]

end Gateway

/-! ## Failures -/

theorem Failure.status_ne_ok (f : Failure) : f.status ≠ 200 := by
  cases f <;> simp [Failure.status]

theorem Http.Response.status_ofFailure {σ : Type} (f : Failure) :
    (ofFailure f : Http.Response σ).status = f.status := by
  unfold ofFailure
  split <;> rfl

theorem Http.Response.body_ofFailure {σ : Type} (f : Failure) :
    ∃ content, (ofFailure f : Http.Response σ).body = .bytes content := by
  unfold ofFailure
  split <;> exact ⟨_, rfl⟩

/-! ## Users -/

/-- The answers of the repositories depend on the user alone. -/
theorem Repository.toStore_congr (repository : Repository) (tree : FileTree) (blobId : BlobId)
    {identity identity' : Identity} (h : identity.user = identity'.user) :
    (repository.toStore tree).retrieve blobId identity = (repository.toStore tree).retrieve blobId identity' := by
  cases repository <;>
    simp only [Repository.toStore, MemoryStore.toStore, DirectoryStore.toStore, h]

namespace Gateway

variable {σ : Type} {c : Collaborators σ}

/-- Users for whom a store has the same answers are served the same. -/
theorem serveBlob_value_congr {identity identity' : Identity}
    (h : ∀ blobId, c.store.retrieve blobId identity = c.store.retrieve blobId identity') (path : String) :
    (serveBlob c path identity).run.value = (serveBlob c path identity').run.value := by
  cases hp : DownloadPath.resolve path with
  | error f => rw [serveBlob_of_unresolved hp, serveBlob_of_unresolved hp]
  | ok target => rw [serveBlob_of_resolved hp, serveBlob_of_resolved hp, h]

end Gateway

end DownloadGateway
