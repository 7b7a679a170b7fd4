import DownloadGateway.Proofs.Authentication
import DownloadGateway.Proofs.BlobStream.Release
import DownloadGateway.Proofs.Gateway.Respond
import DownloadGateway.Store.Table
/-!
# The source that a download opens

Once a download has opened a source, it either hands it to the body of its response, or gives
it back before the response leaves: the headers could not be built, or nobody asked for a body.
A body gives its source back once, so in each case a source that was opened is given back once.
-/

namespace DownloadGateway

/-! ## Events one behind the other -/

theorem Event.closes_append (es es' : List Event) : closes (es ++ es') = closes es + closes es' := by
  rw [closes, calls_append, List.count_append, ← closes, ← closes]

theorem Event.releases_append (es es' : List Event) : releases (es ++ es') = releases es ++ releases es' := by
  rw [releases, logs, List.filterMap_append, List.filter_append]
  rfl

theorem KeepsOpen.append_givesBackOnce {blobId : BlobId} {whole : Bool} {es es' : List Event}
    (h : KeepsOpen es) (h' : GivesBackOnce blobId whole es') : GivesBackOnce blobId whole (es ++ es') where
  closes := by rw [Event.closes_append, h.closes, h'.closes]
  releases := by
    rw [Event.releases_append, h.releases, List.nil_append]
    exact h'.releases

theorem GivesBackOnce.append_keepsOpen {blobId : BlobId} {whole : Bool} {es es' : List Event}
    (h : GivesBackOnce blobId whole es) (h' : KeepsOpen es') : GivesBackOnce blobId whole (es ++ es') where
  closes := by rw [Event.closes_append, h.closes, h'.closes]
  releases := by
    rw [Event.releases_append, h'.releases, List.append_nil]
    exact h.releases

theorem BlobStream.givesBackOnce_release {σ : Type} (s : BlobStream σ) :
    GivesBackOnce s.blobId false (s.release false) := ⟨rfl, _, rfl, rfl, rfl⟩

namespace Gateway

variable {σ : Type} {c : Collaborators σ} {request : Http.Request} {identity : Identity}

/-! ## Asking for the headers alone -/

/-- A download is answered with the body of its endpoint, if it asks for one. -/
theorem respond_of_download {blobId : BlobId} (hm : request.method = "GET" ∨ request.method = "HEAD")
    (hpath : DownloadPath.IsPathOf request.path blobId.value) :
    (respond c request).events =
        (download c request).events ++ (withoutBody request (download c request).value).events ∧
      (respond c request).value.body = (withoutBody request (download c request).value).value.body := by
  have hmem : request.method ∈ Endpoint.download.methods := by simpa [Endpoint.methods] using hm
  rw [respond_of_routed (.inl ⟨_, hpath⟩) hmem, Endpoint.corsRole]
  have hbody : (dressed c.cors request .decorate (download c request).value).body = (download c request).value.body :=
    dressed_body ..
  obtain ⟨hevents, hvalue⟩ := withoutBody_congr request hbody
  exact ⟨congrArg (_ ++ ·) hevents, hvalue⟩

/-! ## What becomes of an open source -/

/-- What is called and recorded until the source of a blob is open. -/
def opening (c : Collaborators σ) (request : Http.Request) (identity : Identity) (blobId : BlobId) : List Event :=
  .call .authenticate :: (c.authenticate request).events ++ .log (.authenticated identity) ::
    .call (.retrieve identity blobId) :: (c.store.retrieve blobId identity).events ++ [.call .openContent]

variable {target : DownloadPath} {blob : Blob σ} {source : σ}

theorem download_of_opened (hi : (c.authenticate request).value = .ok identity)
    (hp : DownloadPath.resolve request.path = .ok target)
    (hr : (c.store.retrieve target.blobId identity).value = .ok blob) (ho : blob.content = .ok source) :
    let answer := streamResponse blob.contentType target.name ⟨source, blob.id, blob.size, 0⟩
    let context := { RequestContext.ofRequest "download" request with identity := some identity }
    download c request =
      ⟨responseOf answer.value,
        opening c request identity target.blobId ++ (answer.events ++ [.log (entryOf context answer.value)])⟩ := by
  rw [download, handle_of_authenticated hi, serveBlob_of_resolved hp, downloadFrom_of_opened hr ho]
  simp only [opening, List.cons_append, List.append_assoc, List.nil_append]

/-- An open source goes into the body of the response, or is given back if the type of its blob
cannot be sent. -/
theorem body_or_givesBackOnce (contentType : String) (name : Option String) (stream : BlobStream σ)
    (context : RequestContext) :
    let answer := streamResponse contentType name stream
    let recorded := answer.events ++ [.log (entryOf context answer.value)]
    if Http.isLegalValue (Utf8.encode contentType) then
      (responseOf answer.value).body = .stream chunkSize stream ∧ KeepsOpen recorded
    else (∃ content, (responseOf answer.value).body = .bytes content) ∧ GivesBackOnce stream.blobId false recorded := by
  intro answer recorded
  split
  · rename_i hlegal
    have hanswer := streamResponse_of_legal hlegal name stream
    simp only [recorded, answer, hanswer]
    exact ⟨rfl, rfl, rfl⟩
  · rename_i hillegal
    have hanswer := streamResponse_of_illegal hillegal name stream
    simp only [recorded, answer, hanswer]
    exact ⟨⟨_, rfl⟩, stream.givesBackOnce_release.append_keepsOpen ⟨rfl, rfl⟩⟩

/-- A source that a download has opened is given back exactly once, with one record. If a body
was asked for and the type of the blob can be sent, the response streams the source, which is
still open then, and the stream gives it back. Otherwise it is given back before the response
leaves, and the response holds no stream. -/
theorem opened_released_once [ByteSource σ] (hm : request.method = "GET" ∨ request.method = "HEAD")
    (hi : (c.authenticate request).value = .ok identity) (hp : DownloadPath.resolve request.path = .ok target)
    (hr : (c.store.retrieve target.blobId identity).value = .ok blob) (ho : blob.content = .ok source) :
    let stream : BlobStream σ := ⟨source, blob.id, blob.size, 0⟩
    let answer := respond c request
    ∃ after, answer.events = opening c request identity target.blobId ++ after ∧
      if request.method = "GET" ∧ Http.isLegalValue (Utf8.encode blob.contentType) then
        answer.value.body = .stream chunkSize stream ∧ KeepsOpen after ∧ ReleasedOnce chunkSize stream
      else (∃ content, answer.value.body = .bytes content) ∧ GivesBackOnce blob.id false after := by
  intro stream answer
  obtain ⟨hevents, hbody⟩ := respond_of_download (c := c) hm (DownloadPath.isPathOf_of_resolve hp)
  rw [download_of_opened hi hp hr ho, List.append_assoc] at hevents
  rw [download_of_opened hi hp hr ho] at hbody
  refine ⟨_, hevents, ?_⟩
  rw [hbody]
  have hfate := body_or_givesBackOnce blob.contentType target.name stream
    { RequestContext.ofRequest "download" request with identity := some identity }
  dsimp only at hfate
  by_cases hget : request.method = "GET"
  · have hhead : request.method ≠ "HEAD" := by rw [hget]; decide
    rw [withoutBody_of_ne_head hhead, List.append_nil]
    split at hfate
    · rename_i hlegal
      rw [if_pos ⟨hget, hlegal⟩]
      exact ⟨hfate.1, hfate.2, stream.releasedOnce chunkSize⟩
    · rename_i hillegal
      rwa [if_neg fun h => hillegal h.2]
  · rw [withoutBody_of_head (hm.resolve_left hget), if_neg fun h => hget h.1]
    refine ⟨⟨[], rfl⟩, ?_⟩
    dsimp only
    split at hfate
    · rw [hfate.1]
      exact hfate.2.append_givesBackOnce stream.givesBackOnce_release
    · obtain ⟨⟨content, hcontent⟩, hgives⟩ := hfate
      rw [hcontent]
      exact hgives.append_keepsOpen keepsOpen_nil

/-- A blob in a table is opened for whoever has a key, and left to the body of the response. -/
theorem opened_released_once_table :
    let blobId : BlobId := ⟨"b", by decide⟩
    let source : Script := ⟨[104, 105], 0, [1], none⟩
    let table : TableStore := ⟨[(blobId, .ok ⟨blobId, 2, "text/plain", .ok source⟩)]⟩
    let service : Service := ⟨[("alice", "key")], ⟨[1], 300⟩, ⟨true, []⟩⟩
    let request : Http.Request := ⟨"GET", "/download/b", none, [("authorization", Utf8.encode (ApiKey.scheme ++ "key"))]⟩
    let answer := respond (service.collaborators 0 table.toStore) request
    ∃ after, answer.events = opening (service.collaborators 0 table.toStore) request ⟨"alice", .apiKey⟩ blobId ++ after ∧
      answer.value.body = .stream chunkSize ⟨source, blobId, 2, 0⟩ ∧ KeepsOpen after ∧
      ReleasedOnce chunkSize (⟨source, blobId, 2, 0⟩ : BlobStream Script) := by
  intro blobId source table service request answer
  have hkey : ApiKey.userOf? service.apiKeys "key" = some "alice" := by decide
  have hpresents : ApiKey.Presents request "key" := rfl
  have ha : (service.strategy 0).authenticate request = _ := Service.authenticate_of_presents hpresents
  rw [ApiKey.outcome_of_presents hpresents hkey, if_pos (by decide +kernel)] at ha
  have hi : ((service.collaborators 0 table.toStore).authenticate request).value = .ok ⟨"alice", .apiKey⟩ :=
    congrArg Traced.value ha
  have hpath : request.path = "/download/" ++ blobId.value := by decide
  have hresolve : DownloadPath.resolve request.path = .ok ⟨blobId, none⟩ := by
    rw [hpath]
    exact DownloadPath.resolve_alone (by decide)
  obtain ⟨after, hevents, hafter⟩ := opened_released_once (c := service.collaborators 0 table.toStore) (.inl rfl)
    hi hresolve (by rfl) rfl
  rw [if_pos ⟨rfl, by decide +kernel⟩] at hafter
  exact ⟨after, hevents, hafter⟩

end Gateway

end DownloadGateway
