import DownloadGateway.Proofs.BlobStream.Segments
import DownloadGateway.Proofs.Store.Puts
/-!
# Sessions with a store in memory

A client puts blobs, asks for them and opens what it was given, in any order. Each answer is fixed
by the puts before it, and what is read of a blob by those before it was retrieved: whatever is put
from then on, for its own user and id or for others, it keeps its bytes and its size.
-/

namespace DownloadGateway.MemoryStore

/-- What a client does with a store. A blob is opened by the place in the session at which it was
retrieved. -/
inductive Operation where
  | put (p : Put)
  | contains (blobId : BlobId) (identity : Identity)
  | retrieve (blobId : BlobId) (identity : Identity)
  | openFrom (place : Nat)

/-- What a client is answered. -/
inductive Answer where
  | put
  | contains (result : Except StorageError Bool)
  | retrieve (result : Except StorageError (Blob Bytes))
  | openFrom (result : Except StorageError Bytes)
  /-- No blob was retrieved at the place. -/
  | nothing

/-- The puts among some operations. -/
def puts (operations : List Operation) : List Put :=
  operations.filterMap fun | .put p => some p | .contains .. | .retrieve .. | .openFrom _ => none

/-- The store, and what its client was answered so far: the blobs that were retrieved are with the
client, not with the store. -/
structure Session where
  store : MemoryStore
  answers : List Answer

namespace Session

/-- The answer to an operation. -/
def answer (s : Session) : Operation → Answer
  | .put _ => .put
  | .contains blobId identity => .contains (s.store.toStore.contains blobId identity).value
  | .retrieve blobId identity => .retrieve (s.store.toStore.retrieve blobId identity).value
  | .openFrom place =>
    match s.answers[place]? with
    | some (.retrieve (.ok blob)) => .openFrom blob.content
    | _ => .nothing

/-- The session after an operation. -/
def step (s : Session) (o : Operation) : Session where
  store := match o with
    | .put p => (s.store.put p.user p.blobId p.stored).value
    | .contains .. | .retrieve .. | .openFrom _ => s.store
  answers := s.answers ++ [s.answer o]

/-- The session after some operations on a store that was empty. -/
def run (operations : List Operation) : Session := operations.foldl step ⟨.empty, []⟩

@[simp] theorem answers_step (s : Session) (o : Operation) : (s.step o).answers = s.answers ++ [s.answer o] := rfl

theorem run_append_cons (before after : List Operation) (o : Operation) :
    run (before ++ o :: after) = after.foldl step ((run before).step o) := List.foldl_append

/-! ## What a session keeps -/

theorem store_foldl (s : Session) (operations : List Operation) :
    (operations.foldl step s).store = s.store.putAll (puts operations) := by
  induction operations generalizing s with
  | nil => rfl
  | cons o operations ih =>
    rw [List.foldl_cons, ih]
    cases o <;> rfl

/-- No operation takes back an answer. -/
theorem answers_foldl (s : Session) (operations : List Operation) :
    ∃ more, (operations.foldl step s).answers = s.answers ++ more ∧ more.length = operations.length := by
  induction operations generalizing s with
  | nil => exact ⟨[], (List.append_nil _).symm, rfl⟩
  | cons o operations ih =>
    obtain ⟨more, hmore, hlength⟩ := ih (s.step o)
    refine ⟨s.answer o :: more, ?_, congrArg (· + 1) hlength⟩
    rw [List.foldl_cons, hmore, answers_step, List.append_assoc, List.singleton_append]

theorem store_run (operations : List Operation) : (run operations).store = MemoryStore.empty.putAll (puts operations) :=
  store_foldl _ _

theorem length_answers_run (operations : List Operation) : (run operations).answers.length = operations.length := by
  obtain ⟨more, hmore, hlength⟩ := answers_foldl ⟨.empty, []⟩ operations
  rw [run, hmore, List.nil_append, hlength]

/-- Each operation is answered by the session before it. -/
theorem answers_run (before after : List Operation) (o : Operation) :
    (run (before ++ o :: after)).answers[before.length]? = some ((run before).answer o) := by
  obtain ⟨more, hmore, -⟩ := answers_foldl ((run before).step o) after
  rw [run_append_cons, hmore, answers_step, List.append_assoc, ← length_answers_run before,
    List.getElem?_append_right (Nat.le_refl _), Nat.sub_self]
  rfl

/-! ## What is answered -/

theorem get?_run (operations : List Operation) (user : String) (blobId : BlobId) :
    (run operations).store.get? user blobId = (Put.last? (puts operations) user blobId).map Put.stored := by
  rw [store_run, get?_putAll]
  exact Option.or_none

theorem answer_contains (operations : List Operation) (blobId : BlobId) (identity : Identity) :
    (run operations).answer (.contains blobId identity) =
      .contains (.ok (Put.last? (puts operations) identity.user blobId).isSome) := by
  rw [answer, toStore, Traced.value_pure, get?_run, Option.isSome_map]

theorem answer_retrieve (operations : List Operation) (blobId : BlobId) (identity : Identity) :
    (run operations).answer (.retrieve blobId identity) =
      .retrieve (match Put.last? (puts operations) identity.user blobId with
        | some p => .ok ⟨blobId, p.data.length, p.contentType, .ok p.data⟩
        | none => .error (.notFound blobId.value)) := by
  rw [answer, toStore, Traced.value_pure, MemoryStore.retrieve, get?_run]
  cases Put.last? (puts operations) identity.user blobId <;> rfl

/-- A blob that was retrieved opens with the bytes it had then. -/
theorem openFrom_of_retrieved (before between rest : List Operation) {blobId : BlobId} {identity : Identity}
    {blob : Blob Bytes} (h : (run before).answer (.retrieve blobId identity) = .retrieve (.ok blob)) :
    (run (before ++ .retrieve blobId identity :: between ++ .openFrom before.length :: rest)).answers[
      before.length + 1 + between.length]? = some (.openFrom blob.content) := by
  have hlength : (before ++ .retrieve blobId identity :: between).length = before.length + 1 + between.length := by
    simp only [List.length_append, List.length_cons]
    omega
  have hheld := answers_run before between (.retrieve blobId identity)
  rw [h] at hheld
  rw [← hlength, answers_run, answer, hheld]

end Session

/-- A store in memory that was empty, in a session of any length. Wherever a client asks for a blob,
(1) it is told that there is one exactly if an earlier put was for this user and id; (2) if there is
none, it cannot be retrieved; (3) otherwise what is retrieved is the last one put, with its type and
size. Opened at any time from then on, it has the data of that put, and streaming it ends without a
fault, once the data went out. -/
theorem session_answers (before : List Operation) (blobId : BlobId) (identity : Identity) :
    let latest? := Put.last? (puts before) identity.user blobId
    let answerTo (o : Operation) (after : List Operation) :=
      (Session.run (before ++ o :: after)).answers[before.length]?
    (latest?.isSome = true ↔ ∃ p ∈ puts before, p.user = identity.user ∧ p.blobId = blobId) ∧
    (∀ after, answerTo (.contains blobId identity) after = some (.contains (.ok latest?.isSome))) ∧
    (latest? = none → ∀ after,
      answerTo (.retrieve blobId identity) after = some (.retrieve (.error (.notFound blobId.value)))) ∧
    ∀ p, latest? = some p →
      (∀ after, answerTo (.retrieve blobId identity) after =
        some (.retrieve (.ok ⟨blobId, p.data.length, p.contentType, .ok p.data⟩))) ∧
      (∀ between rest,
        (Session.run (before ++ .retrieve blobId identity :: between ++ .openFrom before.length :: rest)).answers[
          before.length + 1 + between.length]? = some (.openFrom (.ok p.data))) ∧
      ∀ chunkSize, 1 ≤ chunkSize → ∃ chunks, IsCut chunkSize p.data chunks ∧
        ∀ n, (Polled.polls chunkSize n (.active ⟨p.data, blobId, p.data.length, 0⟩)).value.1 =
          (chunks.map Item.chunk).takeD n .ended := by
  intro latest? answerTo
  have hretrieve := Session.answer_retrieve before blobId identity
  refine ⟨Put.last?_isSome_iff, fun after => ?_, fun hnone after => ?_, fun p hp => ?_⟩
  · exact (Session.answers_run ..).trans (congrArg some (Session.answer_contains before blobId identity))
  · have hnone : Put.last? (puts before) identity.user blobId = none := hnone
    rw [hnone] at hretrieve
    exact (Session.answers_run ..).trans (congrArg some hretrieve)
  · have hp : Put.last? (puts before) identity.user blobId = some p := hp
    rw [hp] at hretrieve
    refine ⟨fun after => ?_, fun between rest => ?_, fun chunkSize hc => ?_⟩
    · exact (Session.answers_run ..).trans (congrArg some hretrieve)
    · exact Session.openFrom_of_retrieved before between rest hretrieve
    · exact ⟨pieces chunkSize p.data, isCut_pieces hc p.data, fun n =>
        Polled.polls_of_whole hc n (handsOut_bytes p.data) blobId⟩

/-- A blob that is replaced before it is opened, and another user to whom there is none. -/
theorem session_answers_replaced :
    let blobId : BlobId := ⟨"b", by decide⟩
    let old : Put := ⟨"u", blobId, "text/plain", [1, 2]⟩
    let new : Put := ⟨"u", blobId, "text/html", [3]⟩
    let session := Session.run
      [.put old, .retrieve blobId ⟨"u", .apiKey⟩, .put new, .openFrom 1, .retrieve blobId ⟨"v", .apiKey⟩]
    Put.last? (puts [.put old]) "u" blobId = some old ∧
      session.answers[1]? = some (.retrieve (.ok ⟨blobId, 2, "text/plain", .ok [1, 2]⟩)) ∧
      session.answers[3]? = some (.openFrom (.ok [1, 2])) ∧
      (∃ chunks, IsCut 1 [1, 2] chunks ∧ (Polled.polls 1 3 (.active ⟨([1, 2] : Bytes), blobId, 2, 0⟩)).value.1 =
        (chunks.map Item.chunk).takeD 3 .ended) ∧
      session.answers[4]? = some (.retrieve (.error (.notFound "b"))) := by
  intro blobId old new session
  have hold : Put.last? (puts [.put old]) "u" blobId = some old := by decide
  have hother : Put.last? [old, new] "v" blobId = none := by decide
  obtain ⟨-, -, -, hfound⟩ := session_answers [.put old] blobId ⟨"u", .apiKey⟩
  obtain ⟨hretrieved, hopened, hstreamed⟩ := hfound old hold
  obtain ⟨chunks, hcut, hitems⟩ := hstreamed 1 (by decide)
  obtain ⟨-, -, hmissing, -⟩ := session_answers
    [.put old, .retrieve blobId ⟨"u", .apiKey⟩, .put new, .openFrom 1] blobId ⟨"v", .apiKey⟩
  exact ⟨hold, hretrieved _, hopened [.put new] _, ⟨chunks, hcut, hitems 3⟩, hmissing hother []⟩

end DownloadGateway.MemoryStore
