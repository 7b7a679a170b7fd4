import DownloadGateway.Proofs.Gateway.ResponseHeaders
/-!
# Who may read a response

A response tells browsers which sites may read it. For downloads and tokens that is decided by the
configured origins and by the origin of the request, and by nothing else: not by the endpoint, nor
by how the request ends. So a preflight foretells the headers of the request behind it.
-/

namespace DownloadGateway

namespace CorsPolicy

variable {origins : List String} {policy : CorsPolicy} {request headers headers' : Http.Headers} {value : Bytes}

/-! ## What a policy allows -/

/-- An origin that is on a list, and that a header can carry. -/
def Lists (origins : List String) (value : Bytes) : Prop :=
  Http.isLegalValue value = true ∧ ∃ origin ∈ origins, Utf8.encode origin = value

theorem allowed_of_any (h : "*" ∈ origins) : (ofOrigins origins).value.allowed request = some (Utf8.encode "*") :=
  if_pos (List.contains_iff_mem.2 h)

theorem mem_origins_iff (h : "*" ∉ origins) : value ∈ (ofOrigins origins).value.origins ↔ Lists origins value := by
  have hlisted : origins.filter (· ≠ anyOrigin) = origins :=
    List.filter_eq_self.2 fun origin horigin => decide_eq_true (ne_of_mem_of_not_mem horigin h)
  simp only [ofOrigins, hlisted, List.mem_map, List.mem_filter, Lists]
  constructor
  · rintro ⟨origin, ⟨horigin, hlegal⟩, rfl⟩
    exact ⟨hlegal, origin, horigin, rfl⟩
  · rintro ⟨hlegal, origin, horigin, rfl⟩
    exact ⟨origin, ⟨horigin, hlegal⟩, rfl⟩

theorem allowed_eq_some_iff (h : "*" ∉ origins) :
    (ofOrigins origins).value.allowed request = some value ↔ request.get? "origin" = some value ∧ Lists origins value := by
  have hany : (ofOrigins origins).value.allowsAny = false := by simpa [ofOrigins, anyOrigin] using h
  rw [allowed, hany, if_neg Bool.false_ne_true, ← mem_origins_iff h]
  cases request.get? "origin" with
  | none => simp
  | some origin =>
    dsimp only
    split
    · rename_i hmem
      simp only [Option.some.injEq]
      exact ⟨fun e => ⟨e, e ▸ List.contains_iff_mem.1 hmem⟩, And.left⟩
    · rename_i hmem
      simp only [reduceCtorEq, Option.some.injEq, false_iff]
      rintro ⟨rfl, hlisted⟩
      exact hmem (List.contains_iff_mem.2 hlisted)

/-! ## The headers that it adds -/

theorem values_apply_congr {name : String} (h : headers.values name = headers'.values name) :
    (policy.apply request headers).values name = (policy.apply request headers').values name := by
  unfold apply
  dsimp only
  split <;> split <;> simp [h]

theorem values_allowOrigin :
    (policy.apply request []).values "access-control-allow-origin" = (policy.allowed request).toList := by
  unfold apply
  dsimp only
  split <;> split <;> simp [*]

theorem values_vary :
    (policy.apply request []).values "vary" = if policy.allowsAny then [] else [Utf8.encode "Origin"] := by
  unfold apply
  dsimp only
  split <;> split <;> simp [*]

/-- The headers of a response that is shared with the sites on a list: with all of them if the list
says so, and otherwise with the one that the request is from, if it is listed. -/
structure SharedWith (origins : List String) (request headers : Http.Headers) : Prop where
  any : "*" ∈ origins →
    headers.values "access-control-allow-origin" = [Utf8.encode "*"] ∧ headers.values "vary" = []
  listed : "*" ∉ origins →
    (∀ value, value ∈ headers.values "access-control-allow-origin" ↔
      request.get? "origin" = some value ∧ Lists origins value) ∧
    (headers.values "access-control-allow-origin").length ≤ 1 ∧ headers.values "vary" = [Utf8.encode "Origin"]
  methods : headers.values "access-control-allow-methods" = [Utf8.encode "GET, POST, OPTIONS"]
  fields : headers.values "access-control-allow-headers" = [Utf8.encode "Content-Type, Authorization, Accept"]

theorem sharedWith_apply (origins : List String) (request : Http.Headers) :
    SharedWith origins request ((ofOrigins origins).value.apply request []) where
  any h := by
    have hany : (ofOrigins origins).value.allowsAny = true := List.contains_iff_mem.2 h
    rw [values_allowOrigin, values_vary, allowed_of_any h, hany]
    exact ⟨rfl, rfl⟩
  listed h := by
    have hany : (ofOrigins origins).value.allowsAny = false := by simpa [ofOrigins, anyOrigin] using h
    rw [values_allowOrigin, values_vary, hany]
    refine ⟨fun value => ?_, ?_, rfl⟩
    · rw [Option.mem_toList, allowed_eq_some_iff h]
    · cases (ofOrigins origins).value.allowed request <;> simp
  methods := by simp [apply]
  fields := by simp [apply]

theorem SharedWith.congr (h : SharedWith origins request headers)
    (heq : ∀ name ∈ names, headers'.values name = headers.values name) : SharedWith origins request headers' := by
  obtain ⟨horigin, hvary, hmethods, hfields⟩ : _ ∧ _ ∧ _ ∧ _ := by simpa [names] using heq
  obtain ⟨hany, hlisted, hm, hf⟩ := h
  rw [← horigin, ← hvary] at hany hlisted
  exact ⟨hany, hlisted, hmethods.trans hm, hfields.trans hf⟩

end CorsPolicy

/-- In production settings do not pass with an origin that stands for all. -/
theorem Settings.any_not_mem_origins {s : Settings} (hproduction : s.isProduction = true) (hvalid : s.validate = .ok ()) :
    "*" ∉ s.origins := by
  intro h
  have hwildcard : (s.isProduction && s.origins.contains "*") = true := by simpa [hproduction] using h
  rw [validate, hwildcard, if_pos rfl] at hvalid
  split at hvalid
  · cases hvalid
  · split at hvalid <;> cases hvalid

namespace Gateway

variable {σ : Type} {c c' : Collaborators σ} {request request' : Http.Request} {endpoint : Endpoint} {origins : List String}
  {name : String}

theorem exists_endpoint_iff {method : String} :
    (∃ endpoint : Endpoint, method ∈ endpoint.methods) ↔ method ∈ ["GET", "HEAD", "POST", "OPTIONS"] := by
  constructor
  · rintro ⟨endpoint, h⟩
    have hall : ∀ m ∈ endpoint.methods, m ∈ ["GET", "HEAD", "POST", "OPTIONS"] := by cases endpoint <;> decide
    exact hall method h
  · simp only [List.mem_cons, List.not_mem_nil, or_false]
    rintro (rfl | rfl | rfl | rfl)
    · exact ⟨.download, by decide⟩
    · exact ⟨.download, by decide⟩
    · exact ⟨.issueToken, by decide⟩
    · exact ⟨.preflight, by decide⟩

theorem not_security_of_cors (h : name ∈ CorsPolicy.names) :
    name ∉ securityNames ∧ name ≠ "content-length" ∧ name ∈ dressing := by
  revert name
  decide

/-- Where an endpoint answers, the headers for other sites are those of the policy. -/
theorem values_respond (hpath : Routed request.path) (hm : request.method ∈ endpoint.methods)
    (hname : name ∈ CorsPolicy.names) :
    (respond c request).value.headers.values name = (c.cors.apply request.headers []).values name := by
  obtain ⟨hsecurity, hlength, hdressing⟩ := not_security_of_cors hname
  obtain ⟨shape, hd⟩ := (destination_of_routed hpath).1 endpoint hm
  obtain ⟨own, hown, hheaders⟩ := headers_decorate c request endpoint
  rw [headers_respond, values_secure_other hsecurity, hd, serve, Traced.value_bind, Traced.value_pure,
    Http.Response.values_withLength hlength, hheaders]
  exact CorsPolicy.values_apply_congr (hown name hdressing)

/-- Elsewhere there are none. -/
theorem values_respond_of_no_endpoint (h : ∀ route, destination request ≠ .endpoint route) (hname : name ∈ CorsPolicy.names) :
    (respond c request).value.headers.values name = [] := by
  obtain ⟨hsecurity, -, hdressing⟩ := not_security_of_cors hname
  rw [headers_respond, values_secure_other hsecurity]
  exact undressed_serve h name hdressing

/-- A preflight asks nobody, and has no body. -/
theorem respond_preflight (hpath : Routed request.path) (hm : request.method = "OPTIONS") :
    (respond c request).value.status = 200 ∧ (respond c request).value.body = .empty ∧ (respond c request).events = [] := by
  have hmem : request.method ∈ Endpoint.preflight.methods := by simp [Endpoint.methods, hm]
  rw [respond_of_ne_head hpath hmem (by simp [hm]), Traced.value_map, Traced.events_map, dressed_status, dressed_body]
  exact ⟨rfl, rfl, rfl⟩

/-- A list of origins without the one that stands for all never has it allowed. -/
theorem any_not_allowed (hcors : c.cors = (CorsPolicy.ofOrigins origins).value) (h : "*" ∉ origins) (request : Http.Request) :
    Utf8.encode "*" ∉ (respond c request).value.headers.values "access-control-allow-origin" := by
  by_cases hd : ∃ route, destination request = .endpoint route
  · obtain ⟨route, hd⟩ := hd
    obtain ⟨hpath, hm, -⟩ := of_destination hd
    rw [values_respond hpath hm (by decide), hcors, ((CorsPolicy.sharedWith_apply origins _).listed h).1]
    -- No other origin has the bytes of the star.
    rintro ⟨-, -, origin, horigin, heq⟩
    exact h (Utf8.encode_inj.1 heq ▸ horigin)
  · rw [values_respond_of_no_endpoint (not_exists.1 hd) (by decide)]
    exact List.not_mem_nil

/-- On the paths of downloads every response is shared as the configured origins say, whoever asks
for what and however that ends. A preflight and a request with the same origin are told the same,
at whichever moment; the preflight asks nobody and has an empty body; and settings that pass in
production share nothing with all sites. -/
theorem shared_as_configured (hcors : c.cors = (CorsPolicy.ofOrigins origins).value) (hpath : Routed request.path)
    (hm : request.method ∈ ["GET", "HEAD", "POST", "OPTIONS"]) :
    CorsPolicy.SharedWith origins request.headers (respond c request).value.headers ∧
    (∀ (c' : Collaborators σ) (request' : Http.Request), c'.cors = c.cors → Routed request'.path →
      request'.method ∈ ["GET", "HEAD", "POST", "OPTIONS"] →
      request'.headers.get? "origin" = request.headers.get? "origin" →
      ∀ name ∈ CorsPolicy.names,
        (respond c' request').value.headers.values name = (respond c request).value.headers.values name) ∧
    (request.method = "OPTIONS" →
      (respond c request).value.status = 200 ∧ (respond c request).value.body = .empty ∧ (respond c request).events = []) ∧
    (∀ settings : Settings, settings.origins = origins → settings.isProduction = true → settings.validate = .ok () →
      ∀ request', Utf8.encode "*" ∉ (respond c request').value.headers.values "access-control-allow-origin") := by
  obtain ⟨endpoint, hmem⟩ := exists_endpoint_iff.2 hm
  refine ⟨?_, ?_, respond_preflight hpath, ?_⟩
  · refine (CorsPolicy.sharedWith_apply origins request.headers).congr fun name hname => ?_
    rw [values_respond hpath hmem hname, hcors]
  · intro c' request' hcors' hpath' hm' horigin name hname
    obtain ⟨endpoint', hmem'⟩ := exists_endpoint_iff.2 hm'
    rw [values_respond hpath' hmem' hname, values_respond hpath hmem hname, hcors', CorsPolicy.apply_congr horigin]
  · rintro settings rfl hproduction hvalid
    exact any_not_allowed hcors (Settings.any_not_mem_origins hproduction hvalid)

/-- A site asks ahead, and then sends a request that nobody is found to be from. -/
theorem shared_as_configured_ahead :
    let origins := ["https://a.example", "https://b.example"]
    let service : Service := ⟨[("alice", "key")], ⟨[1], 300⟩, (CorsPolicy.ofOrigins origins).value⟩
    let c := service.collaborators 0 ((Repository.memory .empty).toStore .empty)
    let origin := Utf8.encode "https://b.example"
    let ahead : Http.Request := ⟨"OPTIONS", "/download/b", none, [("origin", origin)]⟩
    let sent : Http.Request := ⟨"HEAD", "/download/b", none, [("origin", origin)]⟩
    c.cors = (CorsPolicy.ofOrigins origins).value ∧ Routed ahead.path ∧
      ahead.method ∈ ["GET", "HEAD", "POST", "OPTIONS"] ∧ (respond c ahead).events = [] ∧
      origin ∈ (respond c ahead).value.headers.values "access-control-allow-origin" ∧
      (respond c sent).value.status = 401 ∧
      origin ∈ (respond c sent).value.headers.values "access-control-allow-origin" := by
  intro origins service c origin ahead sent
  have hpath : Routed ahead.path := .inl ⟨"b", by decide, by decide, .inl rfl⟩
  have hm : ahead.method ∈ ["GET", "HEAD", "POST", "OPTIONS"] := by decide
  have hlisted : CorsPolicy.Lists origins origin := ⟨by decide, "https://b.example", by decide, rfl⟩
  obtain ⟨hshared, hsame, hpreflight, -⟩ := @shared_as_configured _ c ahead origins rfl hpath hm
  have hallowed : origin ∈ (respond c ahead).value.headers.values "access-control-allow-origin" :=
    ((hshared.listed (by decide)).1 origin).2 ⟨by decide, hlisted⟩
  refine ⟨rfl, hpath, hm, (hpreflight rfl).2.2, hallowed, by decide +kernel, ?_⟩
  rw [hsame c sent rfl hpath (by decide) rfl _ (by decide)]
  exact hallowed

end Gateway

end DownloadGateway
