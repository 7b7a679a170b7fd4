import DownloadGateway.Gateway.Route
import DownloadGateway.Proofs.DownloadPath
/-!
# Where requests lead

The routes look at a path for themselves. They take what the resolvers of download paths take, and
one kind of path more: a capture that is not the last one of its shape may be empty, so that
`/download//name` is led to an endpoint too, where no resolver finds a blob in it.
-/

namespace DownloadGateway.Gateway

variable {path : String}

/-! ## Shapes -/

namespace Shape

variable {pieces : Shape} {segments : List (List Char)}

theorem matchesSegments_nil : matchesSegments [] segments = true ↔ segments = [] := by
  cases segments <;> simp [matchesSegments]

theorem matchesSegments_literal {text : String} :
    matchesSegments (.literal text :: pieces) segments = true ↔
      ∃ rest, segments = text.toList :: rest ∧ matchesSegments pieces rest = true := by
  cases segments <;> simp [matchesSegments, and_assoc]

theorem matchesSegments_last {name : String} :
    matchesSegments [.capture name] segments = true ↔ ∃ segment, segment ≠ [] ∧ segments = [segment] := by
  match segments with
  | [] | [segment] | _ :: _ :: _ => simp [matchesSegments]

theorem matchesSegments_capture {name : String} {piece : Piece} :
    matchesSegments (.capture name :: piece :: pieces) segments = true ↔
      ∃ segment rest, segments = segment :: rest ∧ matchesSegments (piece :: pieces) rest = true := by
  cases segments <;> simp [matchesSegments, and_assoc]

/-- A path has a shape exactly if it is made of segments that have it. -/
theorem matchesPath_iff {s : Shape} (hs : s ≠ []) :
    s.matchesPath path = true ↔
      ∃ segments, s.matchesSegments segments = true ∧ (∀ segment ∈ segments, '/' ∉ segment) ∧
        path.toList = '/' :: ['/'].intercalate segments := by
  constructor
  · intro h
    unfold matchesPath at h
    split at h
    · rename_i rest hrest
      exact ⟨_, h, fun _ => Text.not_mem_of_mem_splitOn, by rw [hrest, List.intercalate_splitOn]⟩
    · cases h
  · rintro ⟨segments, h, hslash, hpath⟩
    have hne : segments ≠ [] := by
      rintro rfl
      obtain ⟨piece, pieces, rfl⟩ := List.exists_cons_of_ne_nil hs
      cases piece <;> simp [matchesSegments] at h
    rw [matchesPath, hpath]
    show s.matchesSegments (List.splitOn '/' (['/'].intercalate segments)) = true
    rwa [List.splitOn_intercalate '/' hslash hne]

end Shape

theorem matches_healthShape : healthShape.matchesPath path = true ↔ path = "/health" := by
  rw [healthShape, Shape.matchesPath_iff (List.cons_ne_nil _ _)]
  simp only [Shape.matchesSegments_literal, Shape.matchesSegments_nil]
  constructor
  · rintro ⟨_, ⟨_, rfl, rfl⟩, -, hpath⟩
    exact String.toList_inj.1 hpath
  · rintro rfl
    exact ⟨_, ⟨_, rfl, rfl⟩, by decide, rfl⟩

theorem matches_blobShape :
    blobShape.matchesPath path = true ↔
      ∃ blob : String, blob ≠ "" ∧ '/' ∉ blob.toList ∧ path = "/download/" ++ blob := by
  rw [blobShape, Shape.matchesPath_iff (List.cons_ne_nil _ _)]
  simp only [Shape.matchesSegments_literal, Shape.matchesSegments_last]
  constructor
  · rintro ⟨_, ⟨_, rfl, blob, hne, rfl⟩, hslash, hpath⟩
    refine ⟨String.ofList blob, by simpa using hne, ?_, ?_⟩
    · simpa using hslash blob (by simp)
    · rw [← String.toList_inj, hpath]
      simp [List.intercalate_cons_cons]
  · rintro ⟨blob, hne, hslash, rfl⟩
    refine ⟨_, ⟨_, rfl, blob.toList, by simpa using hne, rfl⟩, ?_, ?_⟩
    · simpa using hslash
    · simp [List.intercalate_cons_cons]

theorem matches_namedBlobShape :
    namedBlobShape.matchesPath path = true ↔
      ∃ blob name : String, '/' ∉ blob.toList ∧ name ≠ "" ∧ '/' ∉ name.toList ∧
        path = "/download/" ++ blob ++ "/" ++ name := by
  rw [namedBlobShape, Shape.matchesPath_iff (List.cons_ne_nil _ _)]
  simp only [Shape.matchesSegments_literal, Shape.matchesSegments_capture, Shape.matchesSegments_last]
  constructor
  · rintro ⟨_, ⟨_, rfl, blob, _, rfl, name, hne, rfl⟩, hslash, hpath⟩
    refine ⟨String.ofList blob, String.ofList name, ?_, by simpa using hne, ?_, ?_⟩
    · simpa using hslash blob (by simp)
    · simpa using hslash name (by simp)
    · rw [← String.toList_inj, hpath]
      simp [List.intercalate_cons_cons]
  · rintro ⟨blob, name, hblob, hne, hname, rfl⟩
    refine ⟨_, ⟨_, rfl, blob.toList, _, rfl, name.toList, by simpa using hne, rfl⟩, ?_, ?_⟩
    · simpa using ⟨hblob, hname⟩
    · simp [List.intercalate_cons_cons]

/-! ## Paths that are routed -/

/-- A path with a name behind an empty segment, where the blob should be. -/
def LacksBlob (path : String) : Prop := ∃ name : String, name ≠ "" ∧ '/' ∉ name.toList ∧ path = "/download//" ++ name

/-- The paths that lead to an endpoint, by the right methods. -/
def Routed (path : String) : Prop := (∃ blob, DownloadPath.IsPathOf path blob) ∨ LacksBlob path

theorem LacksBlob.not_isPathOf (h : LacksBlob path) (blob : String) : ¬DownloadPath.IsPathOf path blob := by
  obtain ⟨name, -, -, rfl⟩ := h
  rintro ⟨hne, hslash, hpath⟩
  obtain ⟨c, cs, hblob⟩ := List.exists_cons_of_ne_nil (show blob.toList ≠ [] by simpa using hne)
  -- The blob would begin with the slash behind the empty segment.
  have hc : c = '/' := by
    rcases hpath with hpath | ⟨_, -, -, hpath⟩ <;>
      · have hchars := congrArg String.toList hpath
        simp [hblob] at hchars
        exact hchars.1.symm
  rw [hblob, hc] at hslash
  exact hslash (List.mem_cons_self ..)

/-- The paths that are routed are those of the two shapes. -/
theorem routed_iff : Routed path ↔ blobShape.matchesPath path = true ∨ namedBlobShape.matchesPath path = true := by
  rw [matches_blobShape, matches_namedBlobShape]
  constructor
  · rintro (⟨blob, hne, hblob, hpath | ⟨name, hname, hslash, hpath⟩⟩ | ⟨name, hname, hslash, hpath⟩)
    · exact .inl ⟨blob, hne, hblob, hpath⟩
    · exact .inr ⟨blob, name, hblob, hname, hslash, hpath⟩
    · exact .inr ⟨"", name, by decide, hname, hslash, hpath⟩
  · rintro (⟨blob, hne, hblob, hpath⟩ | ⟨blob, name, hblob, hname, hslash, hpath⟩)
    · exact .inl ⟨blob, hne, hblob, .inl hpath⟩
    · -- A named shape takes any blob segment, also an empty one.
      by_cases hne : blob = ""
      · subst hne
        exact .inr ⟨name, hname, hslash, hpath⟩
      · exact .inl ⟨blob, hne, hblob, .inr ⟨name, hname, hslash, hpath⟩⟩

/-- The path of the health check is not routed. -/
theorem Routed.ne_health (h : Routed path) : path ≠ "/health" := by
  have hne : ∀ rest, "/download/" ++ rest ≠ "/health" := by
    intro rest hrest
    have hchars := congrArg (·.toList.take 2) hrest
    simp at hchars
  rcases h with ⟨blob, -, -, hpath | ⟨name, -, -, hpath⟩⟩ | ⟨name, -, -, hpath⟩
  · exact hpath ▸ hne blob
  · rw [hpath, String.append_assoc, String.append_assoc]
    exact hne _
  · rw [hpath, show "/download//" = "/download/" ++ "/" from rfl, String.append_assoc]
    exact hne _

/-- No path has both shapes. -/
theorem not_matches_namedBlobShape (h : blobShape.matchesPath path = true) : namedBlobShape.matchesPath path = false := by
  obtain ⟨blob, -, hblob, hpath⟩ := matches_blobShape.1 h
  refine Bool.eq_false_iff.2 fun hnamed => hblob ?_
  obtain ⟨before, name, -, -, -, hpath'⟩ := matches_namedBlobShape.1 hnamed
  rw [hpath', String.append_assoc, String.append_assoc, String.append_right_inj] at hpath
  rw [← hpath]
  simp

/-- The routes of one shape. -/
def routesOf (shape : Shape) : List Route :=
  [⟨.issueToken, shape, .decorate⟩, ⟨.download, shape, .decorate⟩, ⟨.preflight, shape, .preflight⟩]

/-- A path that is routed has the routes of one shape to choose from. -/
theorem candidates_of_routed (h : Routed path) : ∃ shape, routes.filter (·.shape.matchesPath path) = routesOf shape := by
  by_cases hblob : blobShape.matchesPath path = true
  · exact ⟨blobShape, by simp [routes, routesOf, hblob, not_matches_namedBlobShape hblob]⟩
  · have hnamed := (routed_iff.1 h).resolve_left hblob
    exact ⟨namedBlobShape, by simp [routes, routesOf, hblob, hnamed]⟩

theorem candidates_of_not_routed (h : ¬Routed path) : routes.filter (·.shape.matchesPath path) = [] := by
  rw [routed_iff, not_or] at h
  simp [routes, h.1, h.2]

/-! ## Where a request leads -/

theorem routedMethod_eq_get_iff {method : String} : routedMethod method = "GET" ↔ method = "GET" ∨ method = "HEAD" := by
  unfold routedMethod
  split <;> simp [*]

namespace Endpoint

/-- The methods that lead to an endpoint. -/
def methods : Endpoint → List String
  | .issueToken => ["POST"]
  | .download => ["GET", "HEAD"]
  | .preflight => ["OPTIONS"]

/-- What the routes to an endpoint have to do with cross-origin headers. -/
def corsRole : Endpoint → CorsRole
  | .issueToken | .download => .decorate
  | .preflight => .preflight

theorem mem_methods_iff {endpoint : Endpoint} {method : String} :
    method ∈ endpoint.methods ↔ endpoint.method = routedMethod method := by
  by_cases hm : method = "HEAD"
  · subst hm
    cases endpoint <;> decide
  · rw [routedMethod, if_neg hm]
    cases endpoint <;> simp [methods, Endpoint.method, hm, eq_comm]

end Endpoint

/-- Where a request leads, by its path and its method. -/
inductive Dispatched (request : Http.Request) : Destination → Prop
  | endpoint {endpoint : Endpoint} {shape : Shape} (hpath : Routed request.path) (hm : request.method ∈ endpoint.methods) :
    Dispatched request (.endpoint ⟨endpoint, shape, endpoint.corsRole⟩)
  | wrongMethod (hpath : Routed request.path) (hm : ∀ endpoint : Endpoint, request.method ∉ endpoint.methods) :
    Dispatched request (.wrongMethod "POST,GET,HEAD,OPTIONS")
  | health (hpath : request.path = "/health") (hm : request.method = "GET" ∨ request.method = "HEAD") :
    Dispatched request .health
  | healthMethod (hpath : request.path = "/health") (hm : request.method ≠ "GET" ∧ request.method ≠ "HEAD") :
    Dispatched request (.wrongMethod "GET,HEAD")
  | nowhere (hpath : ¬Routed request.path) (hhealth : request.path ≠ "/health")
    (hslash : request.path.toList.head? = some '/') : Dispatched request .nowhere
  | noPath (hpath : ¬Routed request.path) (hhealth : request.path ≠ "/health")
    (hslash : request.path.toList.head? ≠ some '/') : Dispatched request .noPath

variable {request : Http.Request}

/-- On a path that is routed the method alone decides where a request leads. -/
theorem destination_of_routed (hpath : Routed request.path) :
    (∀ endpoint : Endpoint, request.method ∈ endpoint.methods →
      ∃ shape, destination request = .endpoint ⟨endpoint, shape, endpoint.corsRole⟩) ∧
    ((∀ endpoint : Endpoint, request.method ∉ endpoint.methods) →
      destination request = .wrongMethod "POST,GET,HEAD,OPTIONS") := by
  have hhealth : healthShape.matchesPath request.path ≠ true := mt matches_healthShape.1 hpath.ne_health
  obtain ⟨shape, hroutes⟩ := candidates_of_routed hpath
  simp only [Endpoint.mem_methods_iff, destination, if_neg hhealth, hroutes]
  refine ⟨fun endpoint hm => ⟨shape, ?_⟩, fun hm => ?_⟩
  · -- No two endpoints have a method in common, so the first candidate of a method is the only one.
    rw [← hm]
    cases endpoint <;> rfl
  · have hnone : (routesOf shape).find? (·.endpoint.method = routedMethod request.method) = none :=
      List.find?_eq_none.2 fun route _ => by simpa using hm route.endpoint
    rw [routesOf] at hnone ⊢
    simp only [hnone]
    rfl

theorem dispatched (request : Http.Request) : Dispatched request (destination request) := by
  by_cases hpath : Routed request.path
  · obtain ⟨hendpoint, hwrong⟩ := destination_of_routed hpath
    by_cases hm : ∃ endpoint : Endpoint, request.method ∈ endpoint.methods
    · obtain ⟨endpoint, hm⟩ := hm
      obtain ⟨shape, hd⟩ := hendpoint endpoint hm
      rw [hd]
      exact .endpoint hpath hm
    · rw [hwrong (not_exists.1 hm)]
      exact .wrongMethod hpath (not_exists.1 hm)
  · rw [destination, candidates_of_not_routed hpath]
    simp only [matches_healthShape, routedMethod_eq_get_iff]
    split
    · rename_i hhealth
      split
      · exact .health hhealth ‹_›
      · exact .healthMethod hhealth (not_or.1 ‹_›)
    · rename_i hhealth
      split
      · exact .nowhere hpath hhealth ‹_›
      · exact .noPath hpath hhealth ‹_›

/-- A request reaches an endpoint only on a path that is routed, and by a method of the endpoint. -/
theorem of_destination {route : Route} (h : destination request = .endpoint route) :
    Routed request.path ∧ request.method ∈ route.endpoint.methods ∧ route.cors = route.endpoint.corsRole := by
  have hd := dispatched request
  rw [h] at hd
  cases hd with
  | endpoint hpath hm => exact ⟨hpath, hm, rfl⟩

end DownloadGateway.Gateway
