import DownloadGateway.Proofs.Gateway.Calls
/-!
# The order of the stages

A request passes stages: it is authenticated, its path is resolved, the store is asked, and so
on. The first stage that fails decides the answer, and no later one is called. `DownloadEnds`
and `TokenEnds` say where a request of either kind can end, stage by stage.
-/

namespace DownloadGateway.Gateway

variable {σ : Type} {c : Collaborators σ} {request : Http.Request} {identity : Identity}

/-- A request that a failing stage has ended: the answer is made of the failure alone, and
nothing was called but what is listed. -/
structure FailsWith (answer : Traced (Http.Response σ)) (failure : Failure) (status : Nat)
    (calls : List Call) : Prop where
  response : answer.value = .ofFailure failure
  status : answer.value.status = status
  calls : Event.calls answer.events = calls

/-! ## The calls of each stage

Each is the call of the gateway, and then those that the collaborator makes for its part. -/

def authenticating (c : Collaborators σ) (request : Http.Request) : List Call :=
  .authenticate :: Event.calls (c.authenticate request).events

def retrieving (c : Collaborators σ) (identity : Identity) (blobId : BlobId) : List Call :=
  .retrieve identity blobId :: Event.calls (c.store.retrieve blobId identity).events

def containing (c : Collaborators σ) (identity : Identity) (blobId : BlobId) : List Call :=
  .contains identity blobId :: Event.calls (c.store.contains blobId identity).events

/-! ## The statuses of errors -/

def storageStatus : StorageError → Nat
  | .notFound _ => 404
  | _ => 500

def tokenStatus : TokenError → Nat
  | .signing _ => 500
  | _ => 401

theorem status_of_storageError (e : StorageError) : e.toFailure.status = storageStatus e := by
  cases e <;> rfl

theorem status_of_tokenError (e : TokenError) : e.toFailure.status = tokenStatus e := by
  cases e <;> rfl

/-! ## Where a request ends -/

/-- Where a download ends. -/
def DownloadEnds (c : Collaborators σ) (request : Http.Request) : Prop :=
  let answer := download c request
  match (c.authenticate request).value with
  | .error e => FailsWith answer e.toFailure 401 (authenticating c request)
  | .ok identity =>
    match DownloadPath.resolve request.path with
    | .error failure => FailsWith answer failure 400 (authenticating c request)
    | .ok target =>
      let retrieved := authenticating c request ++ retrieving c identity target.blobId
      match (c.store.retrieve target.blobId identity).value with
      | .error e => FailsWith answer e.toFailure (storageStatus e) retrieved
      | .ok blob =>
        let opened := retrieved ++ [.openContent]
        match blob.content with
        | .error e => FailsWith answer e.toFailure (storageStatus e) opened
        | .ok _ =>
          if Http.isLegalValue (Utf8.encode blob.contentType) then
            answer.value.status = 200 ∧ Event.calls answer.events = opened
          else FailsWith answer illegalContentType 500 (opened ++ [.closeContent])

/-- Where a request for a token ends. -/
def TokenEnds (c : Collaborators σ) (request : Http.Request) : Prop :=
  let answer := issueToken c request
  match (c.authenticate request).value with
  | .error e => FailsWith answer e.toFailure 401 (authenticating c request)
  | .ok identity =>
    match DownloadPath.blobIdOf request.path with
    | .error failure => FailsWith answer failure 400 (authenticating c request)
    | .ok blobId =>
      let asked := authenticating c request ++ containing c identity blobId
      match (c.store.contains blobId identity).value with
      | .error e => FailsWith answer e.toFailure (storageStatus e) asked
      | .ok false => FailsWith answer (.notFound blobId.value) 404 asked
      | .ok true =>
        let generated := asked ++ [.generateToken identity.user blobId]
        match c.generate identity.user blobId with
        | .error e => FailsWith answer e.toFailure (tokenStatus e) generated
        | .ok token =>
          let text := Utf8.encode token.serialize
          answer.value.status = 200 ∧ answer.value.body = .bytes text ∧
            answer.value.headers.get? "content-length" = some (Utf8.encode (toString text.length)) ∧
            Event.calls answer.events = generated

/-! ## One stage at a time -/

variable {action : String} {serve : Identity → Step (Http.Response σ)} {events : List Event}

theorem handle_failsWith_of_rejected {e : AuthError} (h : (c.authenticate request).value = .error e) :
    FailsWith (handle action c request serve) e.toFailure 401 (authenticating c request) := by
  rw [handle_of_rejected h]
  exact ⟨rfl, Http.Response.status_ofFailure _, by simp [authenticating]⟩

/-- The failure of an endpoint is the answer. -/
theorem handle_failsWith {failure : Failure} {status : Nat} {calls : List Call}
    (hi : (c.authenticate request).value = .ok identity)
    (h : (serve identity).run = ⟨.error failure, events⟩) (hstatus : failure.status = status)
    (hcalls : authenticating c request ++ Event.calls events = calls) :
    FailsWith (handle action c request serve) failure status calls := by
  rw [handle_of_authenticated hi, h]
  refine ⟨rfl, ?_, ?_⟩
  · rw [← hstatus]
    exact Http.Response.status_ofFailure failure
  · rw [← hcalls]
    simp [authenticating]

/-- The response of an endpoint is the answer. -/
theorem handle_serves {response : Http.Response σ} {calls : List Call}
    (hi : (c.authenticate request).value = .ok identity) (h : (serve identity).run = ⟨.ok response, events⟩)
    (hcalls : authenticating c request ++ Event.calls events = calls) :
    (handle action c request serve).value = response ∧
      Event.calls (handle action c request serve).events = calls := by
  rw [handle_of_authenticated hi, h]
  refine ⟨rfl, ?_⟩
  rw [← hcalls]
  simp [authenticating]

/-! ## Stage by stage -/

theorem downloadEnds (c : Collaborators σ) (request : Http.Request) : DownloadEnds c request := by
  unfold DownloadEnds
  dsimp only
  split
  · rename_i e ha
    exact handle_failsWith_of_rejected ha
  rename_i identity ha
  split
  · rename_i f hp
    exact handle_failsWith ha (serveBlob_of_unresolved hp) (DownloadPath.status_of_resolve hp) (List.append_nil _)
  rename_i target hp
  have hserve : (serveBlob c request.path identity).run = _ := serveBlob_of_resolved hp
  split
  · rename_i e hr
    rw [downloadFrom_of_not_retrieved hr] at hserve
    exact handle_failsWith ha hserve (status_of_storageError e) rfl
  rename_i blob hr
  split
  · rename_i e ho
    rw [downloadFrom_of_not_opened hr ho] at hserve
    exact handle_failsWith ha hserve (status_of_storageError e) (by simp [retrieving])
  rename_i source ho
  rw [downloadFrom_of_opened hr ho] at hserve
  split
  · rename_i hlegal
    rw [streamResponse_of_legal hlegal] at hserve
    have hserved : (download c request).value = _ ∧ Event.calls (download c request).events = _ :=
      handle_serves ha hserve rfl
    rw [hserved.1, hserved.2]
    exact ⟨rfl, by simp [retrieving]⟩
  · rename_i hillegal
    rw [streamResponse_of_illegal hillegal] at hserve
    exact handle_failsWith ha hserve rfl (by simp [retrieving, calls_release])

theorem tokenEnds (c : Collaborators σ) (request : Http.Request) : TokenEnds c request := by
  unfold TokenEnds
  dsimp only
  split
  · rename_i e ha
    exact handle_failsWith_of_rejected ha
  rename_i identity ha
  split
  · rename_i f hp
    exact handle_failsWith ha (serveToken_of_unresolved hp) (DownloadPath.status_of_blobIdOf hp) (List.append_nil _)
  rename_i blobId hp
  have hserve : (serveToken c request.path identity).run = _ := serveToken_of_resolved hp
  split
  · rename_i e hs
    rw [tokenFrom_of_store_error hs] at hserve
    exact handle_failsWith ha hserve (status_of_storageError e) rfl
  · rename_i hs
    rw [tokenFrom_of_missing hs] at hserve
    exact handle_failsWith ha hserve rfl rfl
  rename_i hs
  split
  · rename_i e hg
    rw [tokenFrom_of_token_error hs hg] at hserve
    exact handle_failsWith ha hserve (status_of_tokenError e) (by simp [containing])
  · rename_i token hg
    rw [tokenFrom_of_issued hs hg] at hserve
    have hserved : (issueToken c request).value = _ ∧ Event.calls (issueToken c request).events = _ :=
      handle_serves ha hserve rfl
    rw [hserved.1, hserved.2]
    exact ⟨rfl, rfl, rfl, by simp [containing]⟩

/-- The stages of both kinds of request. -/
structure StagesInOrder (c : Collaborators σ) (request : Http.Request) : Prop where
  download : DownloadEnds c request
  token : TokenEnds c request
  /-- A download does not resolve if its name segment cannot be decoded. -/
  name_decoded : ∀ (blobId : BlobId) (raw : String) (failure : Failure), '/' ∉ blobId.value.toList → raw ≠ "" →
    '/' ∉ raw.toList → request.path = "/download/" ++ blobId.value ++ "/" ++ raw →
    DownloadPath.decodeName raw = .error failure → DownloadPath.resolve request.path = .error failure
  /-- For a token the name segment does not matter. -/
  name_ignored : ∀ blobId, DownloadPath.blobIdOf request.path = .ok blobId ↔
    DownloadPath.IsPathOf request.path blobId.value

/-- Whatever the collaborators answer, the first stage of a request that fails decides the
answer, and no later stage is called. -/
theorem first_failure_decides (c : Collaborators σ) (request : Http.Request) : StagesInOrder c request where
  download := downloadEnds c request
  token := tokenEnds c request
  name_decoded blobId raw failure hblob hraw hslash hpath hname := by
    rw [hpath, DownloadPath.resolve_named hblob hraw hslash, hname]
    rfl
  name_ignored _ := DownloadPath.blobIdOf_eq_ok_iff

end DownloadGateway.Gateway
