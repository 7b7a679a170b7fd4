import DownloadGateway.Proofs.Gateway.Outcome
import DownloadGateway.Store.Table
/-!
# Failures behind the path

A request that has passed authentication and whose path is resolved may still fail, in the store,
at the token factory, or at the headers. The client is not told where or why, so that two such
failures give one response. The log is told all of it: the text of the failure and those of its
causes.
-/

namespace DownloadGateway

/-! ## The text of a failure -/

/-- The lines of a failure in the log: its own text, then the texts of its causes, the nearest first,
and a mark if there are more than five. -/
def Failure.lines (f : Failure) : List String :=
  f.message :: ((f.causes.take 5).map ("  Caused by: " ++ ·) ++
    if 5 < f.causes.length then ["  ... (truncated)"] else [])

theorem intercalate_newline (line : String) (lines : List String) :
    "\n".intercalate (line :: lines) = line ++ String.join (lines.map ("\n" ++ ·)) := by
  induction lines generalizing line with
  | nil => simp
  | cons next lines ih =>
    rw [String.intercalate_cons_cons, ih, List.map_cons, String.join_cons, String.append_assoc, String.append_assoc]

theorem Failure.detail_eq (f : Failure) : f.detail = "\n".intercalate f.lines := by
  have hcause : ∀ cause : String, "\n" ++ ("  Caused by: " ++ cause) = "\n  Caused by: " ++ cause := fun cause => by
    rw [← String.append_assoc]
    rfl
  have hshown : (f.causes.take 5).map (("\n" ++ ·) ∘ ("  Caused by: " ++ ·)) =
      (f.causes.take 5).map ("\n  Caused by: " ++ ·) := List.map_congr_left fun cause _ => hcause cause
  rw [lines, intercalate_newline, List.map_append, List.map_map, hshown, String.join_append, detail, causeLimit,
    String.append_assoc]
  split <;> rfl

namespace Gateway

variable {σ : Type} {c c' : Collaborators σ} {request : Http.Request} {f f' : Failure}

/-! ## Where a request fails -/

/-- A request that has passed authentication and whose path is resolved ends with a failure that is
not the client's: at one of the three stages of the store, with any error but that there is no such
blob; where a token cannot be signed; or where the content type of a blob makes no header. -/
inductive FailsInside (c : Collaborators σ) (request : Http.Request) : Failure → Prop
  | contains {identity blobId e} (hm : request.method = "POST") (hi : (c.authenticate request).value = .ok identity)
    (hp : DownloadPath.blobIdOf request.path = .ok blobId) (hne : ∀ id, e ≠ .notFound id)
    (he : (c.store.contains blobId identity).value = .error e) :
    FailsInside c request (.storage "Blob storage request failed" e.chain)
  | retrieve {identity target e} (hm : request.method = "GET" ∨ request.method = "HEAD")
    (hi : (c.authenticate request).value = .ok identity) (hp : DownloadPath.resolve request.path = .ok target)
    (hne : ∀ id, e ≠ .notFound id) (he : (c.store.retrieve target.blobId identity).value = .error e) :
    FailsInside c request (.storage "Blob storage request failed" e.chain)
  | opening {identity target blob e} (hm : request.method = "GET" ∨ request.method = "HEAD")
    (hi : (c.authenticate request).value = .ok identity) (hp : DownloadPath.resolve request.path = .ok target)
    (hr : (c.store.retrieve target.blobId identity).value = .ok blob) (hne : ∀ id, e ≠ .notFound id)
    (he : blob.content = .error e) : FailsInside c request (.storage "Blob storage request failed" e.chain)
  | signing {identity blobId reason} (hm : request.method = "POST") (hi : (c.authenticate request).value = .ok identity)
    (hp : DownloadPath.blobIdOf request.path = .ok blobId) (hs : (c.store.contains blobId identity).value = .ok true)
    (he : c.generate identity.user blobId = .error (.signing reason)) : FailsInside c request (.internal reason)
  | headers {identity target blob source} (hm : request.method = "GET" ∨ request.method = "HEAD")
    (hi : (c.authenticate request).value = .ok identity) (hp : DownloadPath.resolve request.path = .ok target)
    (hr : (c.store.retrieve target.blobId identity).value = .ok blob) (ho : blob.content = .ok source)
    (hillegal : ¬Http.isLegalValue (Utf8.encode blob.contentType) = true) : FailsInside c request illegalContentType

theorem toFailure_of_ne_notFound {e : StorageError} (h : ∀ id, e ≠ .notFound id) :
    e.toFailure = .storage "Blob storage request failed" e.chain := by
  cases e with
  | notFound id => exact absurd rfl (h id)
  | _ => rfl

/-- The failure is the outcome of the request at its endpoint. -/
theorem FailsInside.outcome (h : FailsInside c request f) :
    ∃ action serve blob, Serves c request action serve ∧ DownloadPath.IsPathOf request.path blob ∧
      outcomeOf c request serve = .error f := by
  cases h with
  | contains hm hi hp hne he =>
    refine ⟨_, _, _, .issueToken hm, DownloadPath.blobIdOf_eq_ok_iff.1 hp, ?_⟩
    rw [outcomeOf_of_authenticated hi, serveToken_of_resolved hp, tokenFrom_of_store_error he, toFailure_of_ne_notFound hne]
  | retrieve hm hi hp hne he =>
    refine ⟨_, _, _, .download hm, DownloadPath.isPathOf_of_resolve hp, ?_⟩
    rw [outcomeOf_of_authenticated hi, serveBlob_of_resolved hp, downloadFrom_of_not_retrieved he, toFailure_of_ne_notFound hne]
  | opening hm hi hp hr hne he =>
    refine ⟨_, _, _, .download hm, DownloadPath.isPathOf_of_resolve hp, ?_⟩
    rw [outcomeOf_of_authenticated hi, serveBlob_of_resolved hp, downloadFrom_of_not_opened hr he, toFailure_of_ne_notFound hne]
  | signing hm hi hp hs he =>
    refine ⟨_, _, _, .issueToken hm, DownloadPath.blobIdOf_eq_ok_iff.1 hp, ?_⟩
    rw [outcomeOf_of_authenticated hi, serveToken_of_resolved hp, tokenFrom_of_token_error hs he]
    rfl
  | headers hm hi hp hr ho hillegal =>
    refine ⟨_, _, _, .download hm, DownloadPath.isPathOf_of_resolve hp, ?_⟩
    rw [outcomeOf_of_authenticated hi, serveBlob_of_resolved hp, downloadFrom_of_opened hr ho, streamResponse_of_illegal hillegal]

/-! ## What is told of it -/

/-- The response to any failure whose details are for the log alone. -/
def internalResponse : Http.Response σ := .text 500 "text/plain; charset=utf-8" "Internal server error"

theorem FailsInside.isSensitive (h : FailsInside c request f) : f.isSensitive = true := by
  cases h <;> rfl

theorem ofFailure_of_sensitive (h : f.isSensitive = true) : (.ofFailure f : Http.Response σ) = internalResponse := by
  cases f with
  | storage _ _ | internal _ => rfl
  | _ => cases h

theorem level_of_sensitive (h : f.isSensitive = true) : f.level = .error := by
  cases f with
  | storage _ _ | internal _ => rfl
  | _ => cases h

theorem FailsInside.response (h : FailsInside c request f) :
    (respond c request).value =
      (withoutBody request (dressed c.cors request .decorate internalResponse)).value := by
  obtain ⟨action, serve, blob, hserves, hpath, houtcome⟩ := h.outcome
  rw [hserves.respond_eq (.inl ⟨_, hpath⟩), handle_eq, houtcome, responseOf, ofFailure_of_sensitive h.isSensitive]
  rfl

/-- The log has the whole of a failure, in the one entry for the outcome of the request. -/
def LoggedWhole (c : Collaborators σ) (request : Http.Request) (f : Failure) : Prop :=
  ∃ entry, RecordedBy c request entry ∧ (c.Discreet request → Event.outcomes (respond c request).events = [entry]) ∧
    entry.level = .error ∧ entry.message = "Request failed" ∧
    entry.fields.lookup "error" = some ("\n".intercalate f.lines)

theorem FailsInside.loggedWhole (h : FailsInside c request f) : LoggedWhole c request f := by
  obtain ⟨action, serve, blob, hserves, hpath, houtcome⟩ := h.outcome
  have hrecorded := hserves.recordedBy hpath
  rw [houtcome] at hrecorded
  have hlevel : f.level = .error := level_of_sensitive h.isSensitive
  refine ⟨_, hrecorded, hrecorded.only, hlevel, ?_, ?_⟩
  · simp [entryOf, LogEvent.message, hlevel]
  · simp [entryOf, LogEvent.fields, LogEvent.contextFields, hlevel, List.lookup_cons, f.detail_eq]

/-- Two failures behind the path are the same to the client, whatever failed, with whatever texts: a
500 with one text as its body, which is left out where only the headers are asked for. Its headers
are those that any response to the request leaves with. The log tells each failure whole. -/
theorem internal_failures_alike (hcors : c.cors = c'.cors) (h : FailsInside c request f)
    (h' : FailsInside c' request f') :
    let response := (respond c request).value
    response = (respond c' request).value ∧
      response = (withoutBody request (dressed c.cors request .decorate internalResponse)).value ∧
      response.status = 500 ∧
      response.body = (if request.method = "HEAD" then .empty else .bytes (Utf8.encode "Internal server error")) ∧
      LoggedWhole c request f ∧ LoggedWhole c' request f' := by
  intro response
  have hresponse : response = _ := h.response
  refine ⟨?_, hresponse, ?_, ?_, h.loggedWhole, h'.loggedWhole⟩
  · rw [hresponse, h'.response, hcors]
  · rw [hresponse, withoutBody_status, dressed_status]
    rfl
  · rw [hresponse]
    split
    · rename_i hm
      rw [withoutBody_of_head hm]
    · rename_i hm
      rw [withoutBody_of_ne_head hm, dressed_body]
      rfl

/-- Alice asks for a blob whose file is locked, and for one whose type is not legible. -/
theorem internal_failures_alike_locked :
    let blobId : BlobId := ⟨"b", by decide⟩
    let service : Service := ⟨[("alice", "key")], ⟨[1], 300⟩, ⟨true, []⟩⟩
    let request : Http.Request := ⟨"GET", "/download/b", none, [("authorization", Utf8.encode "Bearer key")]⟩
    let locked : StorageError := .system "file locked" ["by a", "by b", "by c", "by d"]
    let corrupt : StorageError := .backend "corrupt"
    let c := fun e => service.collaborators 0 (TableStore.toStore ⟨[(blobId, .error e)]⟩)
    (respond (c locked) request).value = (respond (c corrupt) request).value ∧
      (respond (c locked) request).value.body = .bytes (Utf8.encode "Internal server error") ∧
      (∃ entry, RecordedBy (c locked) request entry ∧ entry.fields.lookup "error" =
        some ("Storage error: Blob storage request failed\n  Caused by: IO error: file locked\n" ++
          "  Caused by: file locked\n  Caused by: by a\n  Caused by: by b\n  Caused by: by c\n  ... (truncated)")) ∧
      ∃ entry, RecordedBy (c corrupt) request entry ∧ entry.fields.lookup "error" =
        some "Storage error: Blob storage request failed\n  Caused by: Storage backend error: corrupt" := by
  intro blobId service request locked corrupt c
  have hi : ∀ e, ((c e).authenticate request).value = .ok ⟨"alice", .apiKey⟩ := by
    have hi : ((service.strategy 0).authenticate request).value = .ok ⟨"alice", .apiKey⟩ := by decide +kernel
    exact fun _ => hi
  have hp : DownloadPath.resolve request.path = .ok ⟨blobId, none⟩ := by decide +kernel
  have hfails : ∀ e, (∀ id, e ≠ .notFound id) →
      FailsInside (c e) request (.storage "Blob storage request failed" e.chain) :=
    fun e hne => .retrieve (.inl rfl) (hi e) hp hne rfl
  have hcors : (c locked).cors = (c corrupt).cors := rfl
  obtain ⟨hsame, -, -, hbody, ⟨entry, hrecorded, -, -, -, htext⟩, entry', hrecorded', -, -, -, htext'⟩ :=
    internal_failures_alike hcors (hfails locked fun _ => nofun) (hfails corrupt fun _ => nofun)
  refine ⟨hsame, hbody, ⟨entry, hrecorded, htext.trans ?_⟩, entry', hrecorded', htext'.trans ?_⟩
  · decide +kernel
  · decide +kernel

end Gateway

end DownloadGateway
