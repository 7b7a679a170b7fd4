import DownloadGateway.Gateway.IssueToken
import DownloadGateway.Proofs.Gateway.DownloadHeaders
/-!
# One request, stage by stage

For each stage at which a request can end there is one equation for what is answered
and recorded then. What is proved of requests is a case analysis over these equations,
so that no other proof opens the handlers.
-/

namespace DownloadGateway

/-! ## Steps -/

namespace Step

variable {α β ε : Type} {f : α → Step β} {toFailure : ε → Failure}

theorem run_bind (x : Step α) (f : α → Step β) :
    (x >>= f).run =
      match x.run.value with
      | .ok a => ⟨(f a).run.value, x.run.events ++ (f a).run.events⟩
      | .error e => ⟨.error e, x.run.events⟩ := by
  apply Traced.ext
  · rw [ExceptT.run_bind, Traced.value_bind]
    cases x.run.value <;> rfl
  · rw [ExceptT.run_bind, Traced.events_bind]
    cases x.run.value with
    | ok a => rfl
    | error e => exact List.append_nil _

theorem run_pure (a : α) : (pure a : Step α).run = ⟨.ok a, []⟩ := rfl

theorem run_attempt (x : Traced (Except ε α)) :
    (attempt toFailure x).run = ⟨x.value.mapError toFailure, x.events⟩ := by
  apply Traced.ext
  · rfl
  · exact List.append_nil _

/-! Each kind of first step, and what is left to do behind it. -/

theorem run_call_bind (c : Call) (f : Unit → Step β) :
    (liftM (Traced.call c) >>= f : Step β).run = ⟨(f ()).run.value, .call c :: (f ()).run.events⟩ := by
  rw [run_bind]
  rfl

theorem run_log_bind (e : LogEvent) (f : Unit → Step β) :
    (liftM (Traced.log e) >>= f : Step β).run = ⟨(f ()).run.value, .log e :: (f ()).run.events⟩ := by
  rw [run_bind]
  rfl

theorem run_ofExcept_ok_bind {x : Except Failure α} {a : α} (h : x = .ok a) :
    (ofExcept x >>= f).run = (f a).run := by
  rw [run_bind, h]
  rfl

theorem run_ofExcept_error_bind {x : Except Failure α} {e : Failure} (h : x = .error e) :
    (ofExcept x >>= f).run = ⟨.error e, []⟩ := by
  rw [run_bind, h]
  rfl

theorem run_attempt_ok_bind {x : Traced (Except ε α)} {a : α} (h : x.value = .ok a) :
    (attempt toFailure x >>= f).run = ⟨(f a).run.value, x.events ++ (f a).run.events⟩ := by
  rw [run_bind, run_attempt, h]
  rfl

theorem run_attempt_error_bind {x : Traced (Except ε α)} {e : ε} (h : x.value = .error e) :
    (attempt toFailure x >>= f).run = ⟨.error (toFailure e), x.events⟩ := by
  rw [run_bind, run_attempt, h]
  rfl

end Step

namespace Gateway

variable {σ : Type} {c : Collaborators σ} {request : Http.Request} {action : String}
  {serve : Identity → Step (Http.Response σ)} {identity : Identity}

/-! ## Authentication -/

/-- The response that an outcome is turned into. -/
def responseOf (outcome : Except Failure (Http.Response σ)) : Http.Response σ :=
  match outcome with
  | .ok response => response
  | .error failure => .ofFailure failure

/-- The entry that records an outcome. -/
def entryOf (context : RequestContext) (outcome : Except Failure (Http.Response σ)) : LogEvent :=
  match outcome with
  | .ok response => .handled context response.status
  | .error failure => .failed context failure

theorem finish_eq (context : RequestContext) (outcome : Except Failure (Http.Response σ)) :
    context.finish outcome = ⟨responseOf outcome, [.log (entryOf context outcome)]⟩ := by
  cases outcome <;> rfl

theorem authenticate_of_error {e : AuthError} (h : (c.authenticate request).value = .error e) :
    (authenticate c request).run =
      ⟨.error e.toFailure, .call .authenticate :: (c.authenticate request).events⟩ := by
  rw [authenticate, Step.run_call_bind, Step.run_attempt_error_bind h]

theorem authenticate_of_ok (h : (c.authenticate request).value = .ok identity) :
    (authenticate c request).run =
      ⟨.ok identity,
        .call .authenticate :: (c.authenticate request).events ++ [.log (.authenticated identity)]⟩ := by
  rw [authenticate, Step.run_call_bind, Step.run_attempt_ok_bind h, Step.run_log_bind, Step.run_pure]
  rfl

/-- A request that is not authenticated is answered without asking the endpoint. -/
theorem handle_of_rejected {e : AuthError} (h : (c.authenticate request).value = .error e) :
    handle action c request serve =
      ⟨.ofFailure e.toFailure,
        .call .authenticate :: (c.authenticate request).events ++
          [.log (.failed (.ofRequest action request) e.toFailure)]⟩ := by
  apply Traced.ext <;>
    simp only [handle, Traced.value_bind, Traced.events_bind, authenticate_of_error h, finish_eq] <;> rfl

/-- An authenticated request is answered with what the endpoint does for its identity. -/
theorem handle_of_authenticated (h : (c.authenticate request).value = .ok identity) :
    handle action c request serve =
      ⟨responseOf (serve identity).run.value,
        .call .authenticate :: (c.authenticate request).events ++
          .log (.authenticated identity) :: (serve identity).run.events ++
          [.log (entryOf { RequestContext.ofRequest action request with identity := some identity }
            (serve identity).run.value)]⟩ := by
  apply Traced.ext <;>
    simp only [handle, Traced.value_bind, Traced.events_bind, authenticate_of_ok h, finish_eq,
      List.append_assoc, List.cons_append, List.nil_append]

/-! ## Downloads -/

theorem serveBlob_of_unresolved {path : String} {f : Failure} (h : DownloadPath.resolve path = .error f) :
    (serveBlob c path identity).run = ⟨.error f, []⟩ := by
  rw [serveBlob, Step.run_ofExcept_error_bind h]

/-- What is made of the store's answer for a download. -/
def downloadFrom (target : DownloadPath) (answer : Traced (Except StorageError (Blob σ))) :
    Step (Http.Response σ) := do
  let blob ← Step.attempt StorageError.toFailure answer
  Traced.call .openContent
  let source ← Step.attempt StorageError.toFailure (pure blob.content)
  ExceptT.mk (streamResponse blob.contentType target.name ⟨source, blob.id, blob.size, 0⟩)

variable {path : String} {target : DownloadPath} {answer : Traced (Except StorageError (Blob σ))}

theorem serveBlob_of_resolved (h : DownloadPath.resolve path = .ok target) :
    (serveBlob c path identity).run =
      ⟨(downloadFrom target (c.store.retrieve target.blobId identity)).run.value,
        .call (.retrieve identity target.blobId) ::
          (downloadFrom target (c.store.retrieve target.blobId identity)).run.events⟩ := by
  rw [serveBlob, Step.run_ofExcept_ok_bind h, Step.run_call_bind, downloadFrom]

theorem downloadFrom_of_not_retrieved {e : StorageError} (h : answer.value = .error e) :
    (downloadFrom target answer).run = ⟨.error e.toFailure, answer.events⟩ := by
  rw [downloadFrom, Step.run_attempt_error_bind h]

theorem downloadFrom_of_not_opened {blob : Blob σ} {e : StorageError} (h : answer.value = .ok blob)
    (ho : blob.content = .error e) :
    (downloadFrom target answer).run = ⟨.error e.toFailure, answer.events ++ [.call .openContent]⟩ := by
  have ho' : (pure blob.content : Traced (Except StorageError σ)).value = .error e := ho
  rw [downloadFrom, Step.run_attempt_ok_bind h, Step.run_call_bind, Step.run_attempt_error_bind ho']
  rfl

theorem downloadFrom_of_opened {blob : Blob σ} {source : σ} (h : answer.value = .ok blob)
    (ho : blob.content = .ok source) :
    (downloadFrom target answer).run =
      let response := streamResponse blob.contentType target.name ⟨source, blob.id, blob.size, 0⟩
      ⟨response.value, answer.events ++ .call .openContent :: response.events⟩ := by
  have ho' : (pure blob.content : Traced (Except StorageError σ)).value = .ok source := ho
  rw [downloadFrom, Step.run_attempt_ok_bind h, Step.run_call_bind, Step.run_attempt_ok_bind ho']
  rfl

/-! ## Tokens -/

theorem serveToken_of_unresolved {f : Failure} (h : DownloadPath.blobIdOf path = .error f) :
    (serveToken c path identity).run = ⟨.error f, []⟩ := by
  rw [serveToken, Step.run_ofExcept_error_bind h]

/-- What is made of the store's answer for a token. -/
def tokenFrom (c : Collaborators σ) (user : String) (blobId : BlobId)
    (answer : Traced (Except StorageError Bool)) : Step (Http.Response σ) := do
  let found ← Step.attempt StorageError.toFailure answer
  if !found then
    throw (.notFound blobId.value)
  else
    Traced.call (.generateToken user blobId)
    let token ← Step.attempt TokenError.toFailure (pure (c.generate user blobId))
    Traced.log (.tokenIssued user blobId)
    pure (tokenResponse token)

variable {user : String} {blobId : BlobId} {answer : Traced (Except StorageError Bool)}

theorem serveToken_of_resolved (h : DownloadPath.blobIdOf path = .ok blobId) :
    (serveToken c path identity).run =
      ⟨(tokenFrom c identity.user blobId (c.store.contains blobId identity)).run.value,
        .call (.contains identity blobId) ::
          (tokenFrom c identity.user blobId (c.store.contains blobId identity)).run.events⟩ := by
  rw [serveToken, Step.run_ofExcept_ok_bind h, Step.run_call_bind, tokenFrom]

theorem tokenFrom_of_store_error {e : StorageError} (h : answer.value = .error e) :
    (tokenFrom c user blobId answer).run = ⟨.error e.toFailure, answer.events⟩ := by
  rw [tokenFrom, Step.run_attempt_error_bind h]

theorem tokenFrom_of_missing (h : answer.value = .ok false) :
    (tokenFrom c user blobId answer).run =
      ⟨.error (.notFound blobId.value), answer.events⟩ := by
  rw [tokenFrom, Step.run_attempt_ok_bind h]
  exact congrArg (Traced.mk _) (List.append_nil _)

theorem tokenFrom_of_token_error {e : TokenError} (h : answer.value = .ok true)
    (hg : c.generate user blobId = .error e) :
    (tokenFrom c user blobId answer).run =
      ⟨.error e.toFailure, answer.events ++ [.call (.generateToken user blobId)]⟩ := by
  have hg' : (pure (c.generate user blobId) : Traced _).value = .error e := hg
  rw [tokenFrom, Step.run_attempt_ok_bind h, if_neg (by decide), Step.run_call_bind,
    Step.run_attempt_error_bind hg']
  rfl

theorem tokenFrom_of_issued {token : AccessToken} (h : answer.value = .ok true)
    (hg : c.generate user blobId = .ok token) :
    (tokenFrom c user blobId answer).run =
      ⟨.ok (tokenResponse token),
        answer.events ++ [.call (.generateToken user blobId), .log (.tokenIssued user blobId)]⟩ := by
  have hg' : (pure (c.generate user blobId) : Traced _).value = .ok token := hg
  rw [tokenFrom, Step.run_attempt_ok_bind h, if_neg (by decide), Step.run_call_bind,
    Step.run_attempt_ok_bind hg', Step.run_log_bind, Step.run_pure]
  rfl

end Gateway

end DownloadGateway
