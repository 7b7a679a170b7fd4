import DownloadGateway.Proofs.Authentication
import DownloadGateway.Proofs.Gateway.Calls
import DownloadGateway.Proofs.Token.Format
/-!
# What a token gives access to

A token leads to the blob it was signed for, read for the user it was signed for, and to
no other; and it is no way to get another token. The authenticator and the handlers
each find the blob in the path on their own, so what joins them is that a path reaches one
blob at most.
-/

namespace DownloadGateway

theorem Repository.call_not_mem_toStore {repository : Repository} {tree : FileTree} {blobId : BlobId}
    {identity : Identity} {call : Call} :
    ¬(.call call ∈ ((repository.toStore tree).retrieve blobId identity).events ∨
      .call call ∈ ((repository.toStore tree).contains blobId identity).events) := by
  intro h
  rcases mem_toStore h with ⟨_, h⟩ | ⟨_, _, _, h⟩ <;> cases h

namespace Gateway

variable {service : Service} {clock : Int} {repository : Repository} {tree : FileTree}
  {request : Http.Request}

/-- Apart from checking credentials and handling content, a call is about the blob of the
path, for the one who was authenticated. -/
theorem calls_of_service {call : Call}
    (h : call ∈ Event.calls (respond (service.collaborators clock (repository.toStore tree)) request).events) :
    (call = .authenticate ∨ call = .openContent ∨ call = .closeContent ∨ ∃ blobId, call = .verifyToken blobId) ∨
      ∃ identity blobId, ((service.strategy clock).authenticate request).value = .ok identity ∧
        DownloadPath.IsPathOf request.path blobId.value ∧
        (call = .retrieve identity blobId ∨ request.method = "POST" ∧
          (call = .contains identity blobId ∨ call = .generateToken identity.user blobId)) := by
  cases makes_of_respond h with
  | authenticate => exact .inl (.inl rfl)
  | openContent => exact .inl (.inr (.inl rfl))
  | closeContent => exact .inl (.inr (.inr (.inl rfl)))
  | attempt h => exact .inl (.inr (.inr (.inr (Service.calls_authenticate h))))
  | store h => exact absurd (h.imp Event.mem_calls.1 Event.mem_calls.1) Repository.call_not_mem_toStore
  | retrieve hi hb => exact .inr ⟨_, _, hi, hb, .inl rfl⟩
  | contains hm hi hb => exact .inr ⟨_, _, hi, hb, .inr ⟨hm, .inl rfl⟩⟩
  | generateToken hm hi hb => exact .inr ⟨_, _, hi, hb, .inr ⟨hm, .inr rfl⟩⟩

/-- A token leads only to what it was signed for, and to no other token. (1) Where the store
is asked for somebody known by a token, the request is a `GET` without authorization field
whose query gives one token; that token is accepted, and it was signed for this blob and this
user. (2) Tokens are made only for somebody known by a key, (3) and none is made for a request
without authorization field, whatever its method and its query. -/
theorem token_confined (service : Service) (clock : Int) (repository : Repository) (tree : FileTree)
    (request : Http.Request) :
    let c := service.collaborators clock (repository.toStore tree)
    let calls := Event.calls (respond c request).events
    (∀ identity blobId, .retrieve identity blobId ∈ calls ∨ .contains identity blobId ∈ calls →
      identity.method = .attachmentToken →
      request.method = "GET" ∧ request.headers.get? "authorization" = none ∧
        ∃ text token, Http.Form.valuesOf "access_token" (request.query.getD "") = [text] ∧
          service.tokens.verify clock text blobId = .ok token ∧
          token.blobId = blobId ∧ token.user = identity.user) ∧
    (∀ user blobId, .generateToken user blobId ∈ calls →
      (c.authenticate request).value = .ok ⟨user, .apiKey⟩) ∧
    (request.headers.get? "authorization" = none → ∀ user blobId, .generateToken user blobId ∉ calls) := by
  intro c calls
  have generated : ∀ user blobId, .generateToken user blobId ∈ calls →
      (c.authenticate request).value = .ok ⟨user, .apiKey⟩ := by
    intro user blobId h
    rcases calls_of_service h with (h | h | h | ⟨_, h⟩) | ⟨identity, blobId', hi, -, h | ⟨hm, h | h⟩⟩ <;> cases h
    cases hmethod : identity.method with
    | apiKey =>
      rw [← hmethod]
      exact hi
    | attachmentToken =>
      obtain ⟨hget, -⟩ := Service.of_authenticate_token hi hmethod
      rw [hm] at hget
      exact absurd hget (by decide)
  refine ⟨?_, generated, ?_⟩
  · intro identity blobId h hmethod
    have hasked : ((service.strategy clock).authenticate request).value = .ok identity ∧
        DownloadPath.IsPathOf request.path blobId.value := by
      rcases h with h | h <;>
        rcases calls_of_service h with (h | h | h | ⟨_, h⟩) | ⟨identity', blobId', hi, hb, h | ⟨-, h | h⟩⟩ <;>
        cases h <;> exact ⟨hi, hb⟩
    obtain ⟨hget, hheader, text, blobId', token, hvalues, hb, hv, huser⟩ :=
      Service.of_authenticate_token hasked.1 hmethod
    -- The blob that the authenticator found in the path is the one that the handler found.
    obtain rfl : blobId' = blobId := BlobId.ext (hb.unique hasked.2)
    obtain ⟨-, -, -, -, hblob, -⟩ := AccessToken.verify_eq_ok_iff.1 hv
    exact ⟨hget, hheader, text, token, hvalues, hv, hblob, huser⟩
  · intro hheader user blobId h
    exact (Service.of_authenticate_key (generated user blobId h) rfl).1 hheader

/-- A token does lead to its blob: the store is asked for its user, although it is empty. -/
theorem token_confined_retrieve :
    let service : Service := ⟨[("alice", "key")], ⟨[1], 300⟩, ⟨true, []⟩⟩
    let blobId : BlobId := ⟨"b", by decide⟩
    let c := service.collaborators 0 ((Repository.memory .empty).toStore .empty)
    let query := "access_token=" ++ (service.tokens.issue 0 "alice" blobId).serialize
    let request : Http.Request := ⟨"GET", "/download/b", some query, []⟩
    .retrieve ⟨"alice", .attachmentToken⟩ blobId ∈ Event.calls (respond c request).events ∧
      ∃ text token, Http.Form.valuesOf "access_token" query = [text] ∧
        service.tokens.verify 0 text blobId = .ok token ∧ token.user = "alice" := by
  intro service blobId c query request
  have hpath : DownloadPath.IsPathOf request.path blobId.value := ⟨by decide, by decide, .inl (by decide)⟩
  have ha : (service.strategy 0).authenticate request = _ :=
    Service.authenticate_of_issued rfl hpath rfl rfl
  rw [if_pos (by decide)] at ha
  have hi : (c.authenticate request).value = .ok ⟨"alice", .attachmentToken⟩ := congrArg Traced.value ha
  have hresolve : DownloadPath.resolve request.path = .ok ⟨blobId, none⟩ := by
    have hs : DownloadPath.split? "/download/b" = some (['b'], none) :=
      DownloadPath.split?_eq_some_alone_iff.2 ⟨by decide, by decide, by decide⟩
    rw [DownloadPath.resolve, hs]
    rfl
  have hasked : .retrieve ⟨"alice", .attachmentToken⟩ blobId ∈ Event.calls (respond c request).events :=
    retrieve_mem_calls rfl hi hresolve
  obtain ⟨-, -, text, token, hvalues, hv, -, huser⟩ :=
    (token_confined service 0 (.memory .empty) .empty request).1 _ _ (.inl hasked) rfl
  exact ⟨hasked, text, token, hvalues, hv, huser⟩

end Gateway

end DownloadGateway
