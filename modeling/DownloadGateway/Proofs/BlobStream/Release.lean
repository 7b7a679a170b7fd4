import DownloadGateway.Proofs.BlobStream
/-!
# How a body ends

A stream is polled some times and then given up. `leaves_polls` says what the polls leave: an
open stream and no record while there are only chunks, and a `closing` and nothing further once
one of them handed out the end or a fault. So a source is given back once (`ReleasedOnce`), and
the count in the log is that of the bytes that went out and of those in a chunk that was withheld.
-/

namespace DownloadGateway

variable {σ : Type} [ByteSource σ]

/-! ## Where a run stops -/

def Item.isChunk : Item → Bool
  | .chunk _ => true
  | .fault _ | .ended => false

/-- The item that a body ended with, if it did. -/
def stop? (items : List Item) : Option Item := items.find? (!·.isChunk)

/-- The bytes that a poll read for a chunk that it withheld. -/
def withheldBy : Item × List ReadOutcome → Bytes
  | (.fault (.oversized _), reads) => handedOut reads
  | _ => []

/-- The bytes that a run read and withheld. -/
def withheld (run : List (Item × List ReadOutcome)) : Bytes := run.flatMap withheldBy

theorem withheld_cons (poll : Item × List ReadOutcome) (run : List (Item × List ReadOutcome)) :
    withheld (poll :: run) = withheldBy poll ++ withheld run := rfl

theorem withheld_replicate_ended (k : Nat) : withheld (List.replicate k (.ended, [])) = [] := by
  induction k with
  | zero => rfl
  | succ k ih => rw [List.replicate_succ, withheld_cons, ih]; rfl

/-- How many bytes a run counts as sent. -/
def counted (run : List (Item × List ReadOutcome)) : Nat := (yielded run).length + (withheld run).length

theorem counted_chunk_cons (bytes : Bytes) (reads : List ReadOutcome) (run : List (Item × List ReadOutcome)) :
    counted ((.chunk bytes, reads) :: run) = bytes.length + counted run := by
  rw [counted, yielded_cons, Item.bytes, List.length_append, Nat.add_assoc]
  rfl

/-- An item that is no chunk counts for what was withheld, and behind it nothing counts. -/
theorem counted_stop {item : Item} (hitem : item.isChunk = false) (reads : List ReadOutcome) (k : Nat) :
    counted ((item, reads) :: List.replicate k (.ended, [])) = (withheldBy (item, reads)).length := by
  have hbytes : item.bytes = [] := by
    cases item with
    | chunk bytes => cases hitem
    | fault fault => rfl
    | ended => rfl
  rw [counted, yielded_cons, Faithful.yielded_replicate_ended, hbytes, withheld_cons, withheld_replicate_ended,
    List.append_nil, List.append_nil, List.length_nil, Nat.zero_add]

/-- What is recorded when a stream is given back after `sent` bytes, by the item that it stopped
at; without one it was dropped. -/
def closing (blobId : BlobId) (declared sent : Nat) : Option Item → List Event
  | some .ended => [.log (.streamCompleted blobId sent), .call .closeContent]
  | some (.fault fault) =>
    [.log (.streamFailed blobId sent fault.message), .log (.streamReleased blobId sent declared), .call .closeContent]
  | some (.chunk _) | none => [.log (.streamReleased blobId sent declared), .call .closeContent]

/-- What the polls of a stream leave: what they recorded, and the stream as its consumer has it. -/
inductive Leaves (s : BlobStream σ) (run : List (Item × List ReadOutcome)) : List Event → Polled σ → Prop
  | running (source : σ) (hstop : stop? (run.map (·.1)) = none) :
    Leaves s run [] (.active { s with source, sent := s.sent + counted run })
  | stopped {item : Item} (hstop : stop? (run.map (·.1)) = some item) :
    Leaves s run (closing s.blobId s.declared (s.sent + counted run) (some item)) .finished

omit [ByteSource σ] in
/-- A chunk moves the count of the stream on by what it adds to the run. -/
theorem Leaves.chunk_cons {s : BlobStream σ} {source : σ} {bytes : Bytes} {reads : List ReadOutcome}
    {run : List (Item × List ReadOutcome)} {events : List Event} {p : Polled σ}
    (h : Leaves { s with source, sent := s.sent + bytes.length } run events p) :
    Leaves s ((.chunk bytes, reads) :: run) events p := by
  have hcount : s.sent + bytes.length + counted run = s.sent + counted ((.chunk bytes, reads) :: run) := by
    rw [counted_chunk_cons, Nat.add_assoc]
  cases h with
  | running source hstop =>
    simp only [hcount]
    exact .running source hstop
  | stopped hstop =>
    simp only [hcount]
    exact .stopped hstop

omit [ByteSource σ] in
/-- A stream that stops is given back with its count, and stays ended. -/
theorem Leaves.stop (s : BlobStream σ) {item : Item} (hitem : item.isChunk = false) (reads : List ReadOutcome)
    (k : Nat) :
    Leaves s ((item, reads) :: List.replicate k (.ended, []))
      (closing s.blobId s.declared (s.sent + (withheldBy (item, reads)).length) (some item)) .finished := by
  rw [← counted_stop hitem reads k]
  exact .stopped (by simp [stop?, hitem])

namespace Polled

/-- A run is idle, or it goes on behind a chunk, or it stops and stays ended. -/
theorem trace_induction (chunkSize n : Nat) (s : BlobStream σ)
    {motive : BlobStream σ → List (Item × List ReadOutcome) → List Event → Polled σ → Prop}
    (idle : ∀ s, motive s [] [] (.active s))
    (chunk : ∀ s source bytes reads run events p,
      motive { s with source, sent := s.sent + bytes.length } run events p →
      motive s ((.chunk bytes, reads) :: run) events p)
    (stop : ∀ s filled item reads events k, Fills chunkSize reads filled.1 →
      Answers s filled ⟨(item, .finished), events⟩ →
      motive s ((item, reads) :: List.replicate k (.ended, [])) events .finished) :
    motive s (trace chunkSize n (.active s)) (polls chunkSize n (.active s)).events
      (polls chunkSize n (.active s)).value.2 := by
  induction n generalizing s with
  | zero => exact idle s
  | succ n ih =>
    have hreads : Fills chunkSize (reads chunkSize (.active s)) (fill chunkSize s.source).1 :=
      (s.next_recording chunkSize).2
    have hanswer := answers_poll chunkSize s
    rw [polls_succ, trace]
    generalize reads chunkSize (.active s) = reads at hreads ⊢
    generalize fill chunkSize s.source = filled at hreads hanswer
    generalize poll chunkSize (.active s) = answer at hanswer ⊢
    have hanswer' := hanswer
    cases hanswer' with
    | chunk bytes source hne hle => exact chunk s source bytes reads _ _ _ (ih _)
    | _ =>
      simp only [trace_finished, polls_finished, List.append_nil]
      exact stop s _ _ reads _ n hreads hanswer

theorem leaves_polls (chunkSize n : Nat) (s : BlobStream σ) :
    Leaves s (trace chunkSize n (.active s)) (polls chunkSize n (.active s)).events
      (polls chunkSize n (.active s)).value.2 := by
  refine trace_induction chunkSize n s (motive := Leaves) ?idle ?chunk ?stop
  case idle =>
    intro s
    exact .running s.source rfl
  case chunk =>
    intro s source bytes reads run events p ih
    exact ih.chunk_cons
  case stop =>
    intro s filled item reads events k hreads hanswer
    cases hanswer with
    | failed fault source => exact .stop s rfl reads k
    | early source hlt => exact .stop s rfl reads k
    | ended source hle => exact .stop s rfl reads k
    | withheld bytes source hne hlt =>
      obtain ⟨hbytes, -⟩ := hreads.content bytes rfl
      rw [hbytes]
      exact .stop s rfl reads k

/-- Takes so many items of a stream, and then gives up on it. -/
def consume (chunkSize n : Nat) (p : Polled σ) : Traced (List Item) := do
  let (items, p) ← polls chunkSize n p
  p.drop
  pure items

theorem value_consume (chunkSize n : Nat) (p : Polled σ) :
    (consume chunkSize n p).value = (trace chunkSize n p).map (·.1) :=
  (map_trace chunkSize n p).symm

theorem events_consume_succ (chunkSize n : Nat) (p : Polled σ) :
    (consume chunkSize (n + 1) p).events =
      (p.poll chunkSize).events ++ (consume chunkSize n (p.poll chunkSize).value.2).events := by
  simp [consume, polls_succ]

/-- A stream that is polled and then given up on leaves a `closing`, wherever it stopped. -/
theorem events_consume (chunkSize n : Nat) (s : BlobStream σ) :
    (consume chunkSize n (.active s)).events =
      closing s.blobId s.declared (s.sent + counted (trace chunkSize n (.active s)))
        (stop? ((trace chunkSize n (.active s)).map (·.1))) := by
  have hevents : (consume chunkSize n (.active s)).events =
      (polls chunkSize n (.active s)).events ++ (polls chunkSize n (.active s)).value.2.drop.events := by
    simp [consume]
  have hleaves := leaves_polls chunkSize n s
  rw [hevents]
  generalize (polls chunkSize n (.active s)).events = events at hleaves ⊢
  generalize (polls chunkSize n (.active s)).value.2 = p at hleaves ⊢
  cases hleaves with
  | running source hstop =>
    rw [hstop]
    rfl
  | stopped hstop =>
    rw [hstop]
    exact List.append_nil _

end Polled

/-- To deliver a stream, whole or up to so many chunks, is to poll it and to give up on it. -/
theorem BlobStream.exists_events_deliver (chunkSize : Nat) (limit : Option Nat) (s : BlobStream σ) :
    ∃ n, (s.deliver chunkSize limit).events = (Polled.consume chunkSize n (.active s)).events := by
  fun_induction BlobStream.deliver chunkSize limit s with
  | case1 s => exact ⟨0, rfl⟩
  | case2 limit s hlimit bytes s' hnext hless ih =>
    obtain ⟨n, hn⟩ := ih
    refine ⟨n + 1, ?_⟩
    rw [Polled.events_consume_succ, Polled.poll, hnext, Traced.events_map, hn]
    rfl
  | case3 limit s hlimit s' hnext =>
    refine ⟨1, ?_⟩
    rw [Polled.events_consume_succ, Polled.poll, hnext]
    exact (List.append_nil _).symm
  | case4 limit s hlimit fault s' hnext =>
    refine ⟨1, ?_⟩
    rw [Polled.events_consume_succ, Polled.poll, hnext]
    exact (List.append_nil _).symm

/-! ## A source is given back once -/

/-- How often a source is given back. -/
def Event.closes (es : List Event) : Nat := (Event.calls es).count .closeContent

/-- Whether an entry records that a source was given back. -/
def LogEvent.isRelease (e : LogEvent) : Bool :=
  e.message = "Blob stream completed" || e.message = "Blob stream released before completion"

/-- The records of sources that were given back. -/
def Event.releases (es : List Event) : List LogEvent := (Event.logs es).filter LogEvent.isRelease

/-- While these happen no source is given back. -/
structure KeepsOpen (es : List Event) : Prop where
  closes : Event.closes es = 0
  releases : Event.releases es = []

/-- The source of a blob is given back once, with one record that tells whether the blob
was sent whole. -/
structure GivesBackOnce (blobId : BlobId) (whole : Bool) (es : List Event) : Prop where
  closes : Event.closes es = 1
  releases : ∃ entry, Event.releases es = [entry] ∧ entry.fields.lookup "blob_id" = some blobId.value ∧
    entry.message = if whole then "Blob stream completed" else "Blob stream released before completion"

theorem keepsOpen_nil : KeepsOpen [] := ⟨rfl, rfl⟩

theorem givesBackOnce_closing (blobId : BlobId) (declared sent : Nat) (stop : Option Item) :
    GivesBackOnce blobId (stop = some .ended) (closing blobId declared sent stop) := by
  cases stop with
  | none => exact ⟨rfl, _, rfl, rfl, rfl⟩
  | some item => cases item <;> exact ⟨rfl, _, rfl, rfl, rfl⟩

/-- However often a stream is polled before it is dropped, it gives its source back once:
when it hands out its end or a fault, or when it is dropped before that. -/
structure ReleasedOnce (chunkSize : Nat) (s : BlobStream σ) : Prop where
  polled : ∀ n, let run := Polled.polls chunkSize n (.active s)
    match stop? run.value.1 with
    | none => KeepsOpen run.events
    | some item => GivesBackOnce s.blobId (item = .ended) run.events
  dropped : ∀ n, let run := Polled.consume chunkSize n (.active s)
    GivesBackOnce s.blobId (stop? run.value = some .ended) run.events
  /-- A client takes a stream by polling and dropping it. -/
  delivered : ∀ limit, ∃ n, (s.deliver chunkSize limit).events = (Polled.consume chunkSize n (.active s)).events

theorem BlobStream.releasedOnce (chunkSize : Nat) (s : BlobStream σ) : ReleasedOnce chunkSize s where
  polled n := by
    dsimp only
    have hleaves := Polled.leaves_polls chunkSize n s
    rw [← Polled.map_trace]
    generalize (Polled.polls chunkSize n (.active s)).events = events at hleaves ⊢
    generalize (Polled.polls chunkSize n (.active s)).value.2 = p at hleaves
    cases hleaves with
    | running source hstop =>
      rw [hstop]
      exact keepsOpen_nil
    | stopped hstop =>
      rw [hstop]
      simpa using givesBackOnce_closing s.blobId s.declared _ (some _)
  dropped n := by
    dsimp only
    rw [Polled.events_consume, Polled.value_consume]
    exact givesBackOnce_closing ..
  delivered limit := s.exists_events_deliver chunkSize limit

/-! ## What is counted -/

/-- An entry of the log tells how many bytes were counted. -/
theorem lookup_bytes_sent_closing {blobId : BlobId} {declared sent : Nat} {stop : Option Item} {e : LogEvent}
    (h : e ∈ Event.logs (closing blobId declared sent stop)) :
    e.fields.lookup "bytes_sent" = some (toString sent) := by
  revert e
  cases stop with
  | none => simp [closing, Event.logs, LogEvent.fields, List.lookup_cons]
  | some item => cases item <;> simp [closing, Event.logs, LogEvent.fields, List.lookup_cons]

/-- Something is withheld exactly if the source runs past what is declared. -/
theorem withheld_trace_eq_nil_iff (chunkSize n : Nat) (s : BlobStream σ) :
    withheld (Polled.trace chunkSize n (.active s)) = [] ↔
      ∀ declared, .fault (.oversized declared) ∉ (Polled.trace chunkSize n (.active s)).map (·.1) := by
  refine Polled.trace_induction chunkSize n s (motive := fun _ run _ _ =>
    withheld run = [] ↔ ∀ declared, .fault (.oversized declared) ∉ run.map (·.1)) ?idle ?chunk ?stop
  case idle => simp [withheld]
  case chunk =>
    intro s source bytes reads run _ _ ih
    simpa [withheld_cons, withheldBy] using ih
  case stop =>
    intro s filled item reads events k hreads hanswer
    cases hanswer with
    | withheld bytes source hne hlt =>
      obtain ⟨hbytes, -⟩ := hreads.content bytes rfl
      simp [withheld_cons, withheld_replicate_ended, withheldBy, ← hbytes, hne]
    | _ => simp [withheld_cons, withheld_replicate_ended, withheldBy]

/-- Wherever a stream was polled to and dropped, its records tell one count: that of the bytes
that went out together with those of a chunk that was withheld, which there is exactly if
the source ran past what was declared. -/
theorem BlobStream.bytes_sent_of_consume (source : σ) (blobId : BlobId) (declared chunkSize n : Nat) :
    let stream : BlobStream σ := ⟨source, blobId, declared, 0⟩
    let run := Polled.trace chunkSize n (.active stream)
    let consumed := Polled.consume chunkSize n (.active stream)
    consumed.value = run.map (·.1) ∧
      (∀ e ∈ Event.logs consumed.events,
        e.fields.lookup "bytes_sent" = some (toString ((yielded run).length + (withheld run).length))) ∧
      (withheld run = [] ↔ ∀ declared', .fault (.oversized declared') ∉ consumed.value) := by
  intro stream run consumed
  have hitems : consumed.value = run.map (·.1) := Polled.value_consume chunkSize n _
  refine ⟨hitems, fun e he => ?_, ?_⟩
  · rw [Polled.events_consume] at he
    rw [lookup_bytes_sent_closing he, Nat.zero_add, counted]
  · rw [hitems]
    exact withheld_trace_eq_nil_iff chunkSize n stream

/-- A source that runs past the promise in its second chunk: two bytes went out, and the records
tell of four. -/
theorem bytes_sent_ne_yielded :
    let stream : BlobStream Script := ⟨⟨[104, 101, 108, 108, 111], 0, [], none⟩, ⟨"b", by decide⟩, 3, 0⟩
    let run := Polled.trace 2 3 (.active stream)
    (yielded run).length = 2 ∧
      ¬∀ e ∈ Event.logs (Polled.consume 2 3 (.active stream)).events,
        e.fields.lookup "bytes_sent" = some (toString (yielded run).length) := by
  decide +kernel

end DownloadGateway
