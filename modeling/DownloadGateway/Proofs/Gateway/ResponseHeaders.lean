import DownloadGateway.Proofs.Gateway.Events
/-!
# The headers of a response

An endpoint says what its body is, and nothing else: the headers for browsers and caches are those
that are added on the way out. So these can be told from where a request leads alone, whatever the
collaborators answer.
-/

namespace DownloadGateway

@[simp] theorem Http.Headers.values_nil (name : String) : Headers.values [] name = [] := rfl

theorem Http.Response.values_withLength {σ : Type} {name : String} (hname : name ≠ "content-length")
    (r : Http.Response σ) : r.withLength.headers.values name = r.headers.values name := by
  unfold withLength
  split
  · simp [Ne.symm hname]
  · rfl

namespace Gateway

variable {σ : Type} {c : Collaborators σ} {request : Http.Request} {endpoint : Endpoint} {headers : Http.Headers}

/-! ## The headers of an endpoint -/

/-- Headers none of which are added on the way out. -/
def Undressed (headers : Http.Headers) : Prop := ∀ name ∈ dressing, headers.values name = []

theorem undressed_nil : Undressed [] := fun _ _ => rfl

theorem Undressed.cons {name : String} {value : Bytes} (hname : name ∉ dressing) (h : Undressed headers) :
    Undressed ((name, value) :: headers) := by
  intro other hother
  have hne : name ≠ other := fun e => hname (e ▸ hother)
  have hrest := h other hother
  simp only [Http.Headers.values] at hrest ⊢
  rwa [List.filter_cons_of_neg (by simpa using hne)]

theorem Undressed.withLength {response : Http.Response σ} (h : Undressed response.headers) :
    Undressed response.withLength.headers := by
  intro name hname
  have hne : name ≠ "content-length" := by
    rintro rfl
    revert hname
    decide
  rw [Http.Response.values_withLength hne]
  exact h name hname

theorem undressed_ofFailure (f : Failure) : Undressed (.ofFailure f : Http.Response σ).headers := by
  unfold Http.Response.ofFailure
  split
  · exact undressed_nil.cons (by decide)
  · exact undressed_nil

theorem undressed_downloadHeaders (contentType : String) (size : Nat) (name : Option String) :
    Undressed (downloadHeaders contentType size name) := by
  cases name with
  | none => exact (undressed_nil.cons (by decide)).cons (by decide)
  | some name => exact ((undressed_nil.cons (by decide)).cons (by decide)).cons (by decide)

theorem undressed_tokenResponse (token : AccessToken) : Undressed (tokenResponse token : Http.Response σ).headers :=
  (undressed_nil.cons (by decide)).cons (by decide)

theorem undressed_handle {action : String} {serve : Identity → Step (Http.Response σ)}
    (h : ∀ identity response, (serve identity).run.value = .ok response → Undressed response.headers) :
    Undressed (handle action c request serve).value.headers := by
  rw [handle_eq]
  dsimp only
  cases houtcome : outcomeOf c request serve with
  | error f => exact undressed_ofFailure f
  | ok response =>
    unfold outcomeOf at houtcome
    split at houtcome
    · cases houtcome
    · exact h _ _ houtcome

theorem undressed_runEndpoint (h : endpoint ≠ .preflight) : Undressed (runEndpoint c request endpoint).value.headers := by
  cases endpoint with
  | preflight => exact absurd rfl h
  | download =>
    refine undressed_handle fun identity response hok => ?_
    obtain ⟨_, _, _, rfl⟩ := of_serveBlob hok
    exact undressed_downloadHeaders _ _ _
  | issueToken =>
    refine undressed_handle fun identity response hok => ?_
    obtain ⟨_, _, -, -, rfl⟩ := of_serveToken hok
    exact undressed_tokenResponse _

/-- With the headers for other sites, the response of any endpoint has those and its own. -/
theorem headers_decorate (c : Collaborators σ) (request : Http.Request) (endpoint : Endpoint) :
    ∃ own, Undressed own ∧
      (decorate c.cors request endpoint.corsRole (runEndpoint c request endpoint).value).headers =
        c.cors.apply request.headers own := by
  cases endpoint with
  | preflight => exact ⟨[], undressed_nil, rfl⟩
  | download => exact ⟨_, undressed_runEndpoint (by decide), rfl⟩
  | issueToken => exact ⟨_, undressed_runEndpoint (by decide), rfl⟩

/-! ## On the way out -/

@[simp] theorem withoutBody_headers (response : Http.Response σ) :
    (withoutBody request response).value.headers = response.headers := by
  by_cases hm : request.method = "HEAD"
  · rw [withoutBody_of_head hm]
  · rw [withoutBody_of_ne_head hm]

theorem headers_respond (c : Collaborators σ) (request : Http.Request) :
    (respond c request).value.headers = secure (serve c request (destination request)).value.headers := by
  simp [respond]

/-- The headers that every response has, each of them once. -/
structure Secured (headers : Http.Headers) : Prop where
  contentType : headers.values "x-content-type-options" = [Utf8.encode "nosniff"]
  frames : headers.values "x-frame-options" = [Utf8.encode "DENY"]
  referrer : headers.values "referrer-policy" = [Utf8.encode "no-referrer"]
  caching : headers.values "cache-control" = [Utf8.encode "private"]

theorem secured_secure (h : headers.values "cache-control" = []) : Secured (secure headers) := by
  have hnone : (((headers.insert "x-content-type-options" (Utf8.encode "nosniff")).insert "x-frame-options"
      (Utf8.encode "DENY")).insert "referrer-policy" (Utf8.encode "no-referrer")).get? "cache-control" = none := by
    simp [Http.Headers.get?_eq_head?, h]
  unfold secure
  dsimp only
  rw [hnone]
  constructor <;> simp

/-- Where no endpoint answers, the last step alone adds headers for browsers and caches. -/
theorem undressed_serve (h : ∀ route, destination request ≠ .endpoint route) :
    Undressed (serve c request (destination request)).value.headers := by
  cases hd : destination request with
  | endpoint route => exact absurd hd (h route)
  | health | wrongMethod allow => exact (undressed_nil.cons (by decide)).withLength
  | nowhere => exact undressed_nil
  | noPath => exact undressed_nil.withLength

/-- No step but the last one adds a header for caches. -/
theorem values_serve (c : Collaborators σ) (request : Http.Request) :
    (serve c request (destination request)).value.headers.values "cache-control" = [] := by
  by_cases h : ∃ route, destination request = .endpoint route
  · obtain ⟨route, hd⟩ := h
    obtain ⟨-, -, hrole⟩ := of_destination hd
    obtain ⟨own, hown, hheaders⟩ := headers_decorate c request route.endpoint
    rw [hd, serve, Traced.value_bind, Traced.value_pure, Http.Response.values_withLength (by decide), hrole, hheaders,
      CorsPolicy.values_apply_other (by decide)]
    exact hown _ (by decide)
  · exact undressed_serve (not_exists.1 h) _ (by decide)

/-- Every response has the headers that keep browsers and caches in check, wherever the request leads. -/
theorem secured_respond (c : Collaborators σ) (request : Http.Request) : Secured (respond c request).value.headers := by
  rw [headers_respond]
  exact secured_secure (values_serve c request)

end Gateway

end DownloadGateway
