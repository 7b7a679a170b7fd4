import DownloadGateway.Proofs.BlobStream.Segments
import DownloadGateway.Proofs.Gateway.Respond
import DownloadGateway.Proofs.Store.Puts
/-!
# What was stored is what is downloaded

A download carries what was put last, from the content type to the last byte: the size that is
promised is the one of the data that is streamed.
-/

namespace DownloadGateway

/-- A repository that some puts have filled, each of which succeeded, whatever it held before. -/
inductive Repository.FilledBy (puts : List Put) : Repository → FileTree → Prop
  | memory (m : MemoryStore) (t : FileTree) : FilledBy puts (.memory (m.putAll puts)) t
  | directory {d : DirectoryStore} {t t' : FileTree} (h : d.putAll? t puts = some t') : FilledBy puts (.directory d) t'

theorem Repository.FilledBy.answers {puts : List Put} {r : Repository} {t : FileTree} {identity : Identity}
    {blobId : BlobId} {p : Put} (h : FilledBy puts r t) (hlast : Put.last? puts identity.user blobId = some p) :
    (r.toStore t).answers blobId identity = (.ok true, .ok ⟨blobId, p.data.length, p.contentType, .ok p.data⟩) := by
  cases h with
  | memory m =>
    rw [toStore, MemoryStore.answers_eq, MemoryStore.get?_putAll, hlast]
    rfl
  | directory h => exact DirectoryStore.answers_of_last? h hlast

namespace Gateway

variable {c : Collaborators Bytes} {request : Http.Request} {identity : Identity} {target : DownloadPath}
  {contentType : String} {data : Bytes}

/-- The headers and the stream of a download. -/
theorem respond_of_retrieved {blob : Blob Bytes} {source : Bytes} (hm : request.method = "GET")
    (hi : (c.authenticate request).value = .ok identity) (hp : DownloadPath.resolve request.path = .ok target)
    (hr : (c.store.retrieve target.blobId identity).value = .ok blob) (ho : blob.content = .ok source)
    (hlegal : Http.isLegalValue (Utf8.encode blob.contentType) = true) :
    (respond c request).value =
      dressed c.cors request .decorate
        ⟨200, downloadHeaders blob.contentType blob.size target.name,
          .stream chunkSize ⟨source, blob.id, blob.size, 0⟩⟩ := by
  rw [respond_download hm (DownloadPath.isPathOf_of_resolve hp), Traced.value_map, download,
    handle_of_authenticated hi, serveBlob_of_resolved hp, downloadFrom_of_opened hr ho, streamResponse_of_legal hlegal]
  rfl

/-- A download of a blob that was put carries its last content type and its last data, under a
name exactly if the path has one; the data goes out in as few chunks as hold it, and then the
body ends. -/
theorem downloads_last_put (service : Service) (clock : Int) {puts : List Put} {r : Repository} {t : FileTree}
    (hfilled : r.FilledBy puts t) {request : Http.Request} {identity : Identity} {blobId : BlobId}
    {name : Option String} {p : Put} (hm : request.method = "GET")
    (hi : ((service.strategy clock).authenticate request).value = .ok identity)
    (hpath : DownloadPath.LeadsTo blobId request.path name)
    (hlast : Put.last? puts identity.user blobId = some p)
    (hlegal : Http.isLegalValue (Utf8.encode p.contentType) = true) :
    let response := (respond (service.collaborators clock (r.toStore t)) request).value
    response.status = 200 ∧
      response.headers.values "content-type" = [Utf8.encode p.contentType] ∧
      response.headers.values "content-length" = [Utf8.encode (toString p.data.length)] ∧
      response.headers.values "content-disposition" =
        (name.map fun n => Utf8.encode (Disposition.attachment n)).toList ∧
      ∃ stream chunks, response.body = .stream 16384 stream ∧ IsCut 16384 p.data chunks ∧
        ∀ n, (Polled.polls 16384 n (.active stream)).value.1 = (chunks.map Item.chunk).takeD n .ended := by
  intro response
  have hretrieve := congrArg Prod.snd (hfilled.answers hlast)
  have hresponse : response = _ :=
    respond_of_retrieved (c := service.collaborators clock (r.toStore t)) hm hi hpath.resolve hretrieve rfl hlegal
  rw [hresponse, dressed_status, dressed_body, values_dressed (by decide) _ _ rfl, values_dressed (by decide) _ _ rfl,
    values_dressed (by decide) _ _ rfl]
  refine ⟨rfl, ?_, ?_, ?_, _, pieces 16384 p.data, rfl, isCut_pieces (by decide) p.data, fun n => ?_⟩
  · cases name <;> rfl
  · cases name <;> rfl
  · cases name <;> rfl
  · have hitems : (Polled.polls 16384 n (.active ⟨p.data, blobId, p.data.length, 0⟩)).value.1 = _ :=
      Polled.polls_of_handsOut (by decide) n (Nat.zero_le _) (handsOut_bytes p.data)
    rw [hitems, outcome, if_pos (Nat.zero_add _)]

/-- A blob on disk that was put twice, downloaded under a name. -/
theorem downloads_last_put_named :
    let service : Service := ⟨[("alice", "key")], ⟨[1], 300⟩, ⟨true, []⟩⟩
    let request : Http.Request := ⟨"GET", "/download/b/n%20m", none, [("authorization", Utf8.encode "Bearer key")]⟩
    let blobId : BlobId := ⟨"b", by decide⟩
    let puts : List Put := [⟨"alice", blobId, "text/plain", [1]⟩, ⟨"alice", blobId, "text/html", [2, 3]⟩]
    let d : DirectoryStore := ⟨"s"⟩
    ∃ t, d.putAll? .empty puts = some t ∧
      let response := (respond (service.collaborators 0 (d.toStore t)) request).value
      response.status = 200 ∧ response.headers.values "content-type" = [Utf8.encode "text/html"] ∧
        response.headers.values "content-length" = [Utf8.encode "2"] ∧
        response.headers.values "content-disposition" = [Utf8.encode (Disposition.attachment "n m")] ∧
        ∃ stream, response.body = .stream 16384 stream ∧
          (Polled.polls 16384 2 (.active stream)).value.1 = [.chunk [2, 3], .ended] := by
  intro service request blobId puts d
  obtain ⟨t, hputs⟩ := Option.isSome_iff_exists.1 (show (d.putAll? .empty puts).isSome by decide +kernel)
  have hname : DownloadPath.decodeName "n%20m" = .ok "n m" := by decide +kernel
  have hpath : DownloadPath.LeadsTo blobId request.path (some "n m") :=
    .named (by decide) (by decide) (by decide) hname
  have hi : ((service.strategy 0).authenticate request).value = .ok ⟨"alice", .apiKey⟩ := by decide +kernel
  have hlast : Put.last? puts "alice" blobId = some ⟨"alice", blobId, "text/html", [2, 3]⟩ := by decide
  obtain ⟨hstatus, htype, hlength, hdisposition, stream, chunks, hbody, hcut, hitems⟩ :=
    downloads_last_put service 0 (.directory hputs) rfl hi hpath hlast (by decide +kernel)
  have hchunks : chunks = [[2, 3]] := by
    obtain ⟨chunk, rfl⟩ := List.length_eq_one_iff.1 (hcut.length.trans (by decide))
    simpa using hcut.flatten
  subst hchunks
  exact ⟨t, hputs, hstatus, htype, hlength.trans (by decide +kernel), hdisposition, stream, hbody, hitems 2⟩

end Gateway

end DownloadGateway
