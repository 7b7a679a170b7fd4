import DownloadGateway.BlobStream
/-!
# What a streamed body delivers

A run of polls is looked at together with the outcomes of the reads that each poll made,
which a recording source writes down. `Faithful` is what holds of every such run, whatever
the source does: it is kept by one more chunk, and by either end.
-/

namespace DownloadGateway

variable {σ : Type} [ByteSource σ] {chunkSize left room : Nat}

/-! ## Recorded reads -/

/-- What a read hands out, or why it fails. -/
abbrev ReadOutcome := Except ReadFault Bytes

/-- The bytes that some reads handed out. -/
def handedOut (reads : List ReadOutcome) : Bytes :=
  reads.flatMap fun | .ok bytes => bytes | .error _ => []

@[simp] theorem handedOut_nil : handedOut [] = [] := rfl

@[simp] theorem handedOut_cons_ok (bytes : Bytes) (reads : List ReadOutcome) :
    handedOut (.ok bytes :: reads) = bytes ++ handedOut reads := rfl

@[simp] theorem handedOut_append (reads reads' : List ReadOutcome) :
    handedOut (reads ++ reads') = handedOut reads ++ handedOut reads' := List.flatMap_append

/-- A source that writes down the outcome of every read. -/
structure Recorded (σ : Type) where
  source : σ
  reads : List ReadOutcome

instance : ByteSource (Recorded σ) where
  read n r :=
    ((ByteSource.read n r.source).1,
      ⟨(ByteSource.read n r.source).2, r.reads ++ [(ByteSource.read n r.source).1]⟩)
  length_le_of_read h := ByteSource.length_le_of_read h

theorem read_recorded (n : Nat) (r : Recorded σ) :
    ByteSource.read n r =
      ((ByteSource.read n r.source).1,
        ⟨(ByteSource.read n r.source).2, r.reads ++ [(ByteSource.read n r.source).1]⟩) := rfl

/-- How the reads made for one chunk come to their outcome. -/
structure Fills (room : Nat) (reads : List ReadOutcome) (outcome : ReadOutcome) : Prop where
  /-- Nothing is filled only if the first read reports the end. -/
  head : 0 < room → (reads.head? = some (.ok []) ↔ outcome = .ok [])
  content : ∀ bytes, outcome = .ok bytes →
    bytes = handedOut reads ∧ bytes.length ≤ room ∧ (bytes.length < room → .ok [] ∈ reads)

theorem Fills.read_cons {b : UInt8} {bs : Bytes} {reads : List ReadOutcome} {outcome : ReadOutcome}
    (hle : (b :: bs).length ≤ room) (h : Fills (room - (b :: bs).length) reads outcome) :
    Fills room (.ok (b :: bs) :: reads) (outcome.map ((b :: bs) ++ ·)) where
  head _ := by cases outcome <;> simp [Except.map]
  content bytes hbytes := by
    cases outcome with
    | error fault => cases hbytes
    | ok more =>
      obtain ⟨hmore, hlen, hshort⟩ := h.content more rfl
      cases hbytes
      refine ⟨by rw [handedOut_cons_ok, ← hmore], ?_, fun hlt => List.mem_cons_of_mem _ (hshort ?_)⟩
      all_goals
        simp only [List.length_append] at *
        omega

/-- Filling a chunk over a recording source does what it does without, and writes down
reads that come to its outcome. -/
theorem fill_recorded (room : Nat) (s : σ) (log : List ReadOutcome) :
    ∃ reads, fill room (⟨s, log⟩ : Recorded σ) = ((fill room s).1, ⟨(fill room s).2, log ++ reads⟩) ∧
      Fills room reads (fill room s).1 := by
  fun_induction fill room s generalizing log with
  | case1 s =>
    refine ⟨[], by rw [fill, if_pos rfl, List.append_nil], fun h => absurd h (Nat.lt_irrefl 0), ?_⟩
    rintro bytes ⟨⟩
    exact ⟨rfl, Nat.le_refl 0, fun h => absurd h (Nat.lt_irrefl 0)⟩
  | case2 room s hroom fault s' hread =>
    refine ⟨[.error fault], ?_, by simp, by simp⟩
    rw [fill, if_neg hroom, read_recorded, hread]
  | case3 room s hroom s' hread =>
    refine ⟨[.ok []], ?_, by simp, by simp⟩
    rw [fill, if_neg hroom, read_recorded, hread]
  | case4 room s hroom b bs s' hread more ih =>
    -- The first read is written down before those of the rest of the chunk.
    have hle : (b :: bs).length ≤ room := ByteSource.length_le_of_read (congrArg Prod.fst hread)
    obtain ⟨reads, hfill, hreads⟩ := ih (log ++ [.ok (b :: bs)])
    refine ⟨.ok (b :: bs) :: reads, ?_, hreads.read_cons hle⟩
    rw [fill, if_neg hroom, read_recorded, hread]
    simp only [hfill, List.append_assoc, List.singleton_append]
    rfl

/-! ## Runs of polls -/

/-- The stream that a step leaves behind. -/
def Progress.stream : Progress σ → BlobStream σ
  | .chunk _ s | .ended s | .failed _ s => s

/-- The stream over a source that writes down its reads from now on. -/
def BlobStream.recording (s : BlobStream σ) : BlobStream (Recorded σ) := { s with source := ⟨s.source, []⟩ }

/-- The stream without what was written down. -/
def BlobStream.forget (s : BlobStream (Recorded σ)) : BlobStream σ := { s with source := s.source.source }

def Progress.forget : Progress (Recorded σ) → Progress σ
  | .chunk bytes s => .chunk bytes s.forget
  | .ended s => .ended s.forget
  | .failed fault s => .failed fault s.forget

/-- A recorded step is the step, and the reads written down are those of filling its chunk. -/
theorem BlobStream.next_recording (chunkSize : Nat) (s : BlobStream σ) :
    (s.recording.next chunkSize).forget = s.next chunkSize ∧
      Fills chunkSize (s.recording.next chunkSize).stream.source.reads (fill chunkSize s.source).1 := by
  obtain ⟨reads, hfill, hreads⟩ := fill_recorded chunkSize s.source []
  rw [List.nil_append] at hfill
  cases hf : fill chunkSize s.source with
  | mk outcome source =>
    rw [hf] at hfill hreads
    simp only [next, recording, hfill, hf]
    cases outcome with
    | error fault => exact ⟨rfl, hreads⟩
    | ok bytes =>
      by_cases hb : bytes = []
      · by_cases hs : s.sent < s.declared <;> simp only [hb, hs, if_true, if_false] <;>
          exact ⟨rfl, hb ▸ hreads⟩
      · by_cases hs : s.sent + bytes.length > s.declared <;> simp only [hb, hs, if_true, if_false] <;>
          exact ⟨rfl, hreads⟩

namespace Polled

/-- What a poll of an open stream leads to, by how the filling of its chunk came out. -/
inductive Answers (s : BlobStream σ) : ReadOutcome × σ → Traced (Item × Polled σ) → Prop
  | failed (fault : ReadFault) (source : σ) :
    Answers s (.error fault, source)
      ⟨(.fault (.read fault), .finished), BlobStream.fail { s with source } (.read fault)⟩
  | early (source : σ) (hlt : s.sent < s.declared) :
    Answers s (.ok [], source)
      ⟨(.fault (.endedEarly s.sent s.declared), .finished),
        BlobStream.fail { s with source } (.endedEarly s.sent s.declared)⟩
  | ended (source : σ) (hle : s.declared ≤ s.sent) :
    Answers s (.ok [], source) ⟨(.ended, .finished), BlobStream.release { s with source } true⟩
  | withheld (bytes : Bytes) (source : σ) (hne : bytes ≠ []) (hlt : s.declared < s.sent + bytes.length) :
    Answers s (.ok bytes, source)
      ⟨(.fault (.oversized s.declared), .finished),
        BlobStream.fail { s with source, sent := s.sent + bytes.length } (.oversized s.declared)⟩
  | chunk (bytes : Bytes) (source : σ) (hne : bytes ≠ []) (hle : s.sent + bytes.length ≤ s.declared) :
    Answers s (.ok bytes, source)
      ⟨(.chunk bytes, .active { s with source, sent := s.sent + bytes.length }), []⟩

theorem answers_poll (chunkSize : Nat) (s : BlobStream σ) :
    Answers s (fill chunkSize s.source) (poll chunkSize (.active s)) := by
  cases hf : fill chunkSize s.source with
  | mk outcome source =>
    cases outcome with
    | error fault =>
      simp only [poll, BlobStream.next, hf]
      exact .failed fault source
    | ok bytes =>
      by_cases hb : bytes = []
      · subst hb
        by_cases hlt : s.sent < s.declared
        · simp only [poll, BlobStream.next, hf, if_true, if_pos hlt]
          exact .early source hlt
        · simp only [poll, BlobStream.next, hf, if_true, if_neg hlt]
          exact .ended source (Nat.le_of_not_lt hlt)
      · by_cases hlt : s.sent + bytes.length > s.declared
        · simp only [poll, BlobStream.next, hf, if_neg hb, if_pos hlt]
          exact .withheld bytes source hb hlt
        · simp only [poll, BlobStream.next, hf, if_neg hb, if_neg hlt]
          exact .chunk bytes source hb (Nat.le_of_not_lt hlt)

theorem polls_succ (chunkSize n : Nat) (p : Polled σ) :
    polls chunkSize (n + 1) p =
      let rest := polls chunkSize n (p.poll chunkSize).value.2
      ⟨((p.poll chunkSize).value.1 :: rest.value.1, rest.value.2), (p.poll chunkSize).events ++ rest.events⟩ := by
  apply Traced.ext
  · rfl
  · simp only [polls, Traced.events_bind, Traced.events_pure, List.append_nil]

/-- A stream that has ended stays so. -/
theorem polls_finished (chunkSize n : Nat) :
    polls chunkSize n (.finished : Polled σ) = ⟨(List.replicate n .ended, .finished), []⟩ := by
  induction n with
  | zero => rfl
  | succ n ih =>
    rw [polls_succ, poll, ih, List.replicate_succ]
    rfl

/-- The outcomes of the reads that one poll makes. -/
def reads (chunkSize : Nat) : Polled σ → List ReadOutcome
  | .finished => []
  | .active s => (s.recording.next chunkSize).stream.source.reads

/-- The items of so many polls, each with the reads that its poll made. -/
def trace (chunkSize : Nat) : Nat → Polled σ → List (Item × List ReadOutcome)
  | 0, _ => []
  | n + 1, p => ((p.poll chunkSize).value.1, p.reads chunkSize) :: trace chunkSize n (p.poll chunkSize).value.2

theorem map_trace (chunkSize n : Nat) (p : Polled σ) :
    (trace chunkSize n p).map (·.1) = (polls chunkSize n p).value.1 := by
  induction n generalizing p with
  | zero => rfl
  | succ n ih =>
    rw [trace, List.map_cons, ih]
    rfl

theorem trace_finished (chunkSize n : Nat) :
    trace chunkSize n (.finished : Polled σ) = List.replicate n (.ended, []) := by
  induction n with
  | zero => rfl
  | succ n ih =>
    rw [trace, List.replicate_succ, ← ih]
    rfl

end Polled

/-! ## Faithful runs -/

def Item.bytes : Item → Bytes
  | .chunk bytes => bytes
  | .fault _ | .ended => []

/-- The bytes that a run yields. -/
def yielded (run : List (Item × List ReadOutcome)) : Bytes := run.flatMap (·.1.bytes)

@[simp] theorem yielded_cons (item : Item) (reads : List ReadOutcome) (run : List (Item × List ReadOutcome)) :
    yielded ((item, reads) :: run) = item.bytes ++ yielded run := rfl

/-- What holds of a run over a stream of which `left` bytes are still promised. -/
structure Faithful (chunkSize left : Nat) (run : List (Item × List ReadOutcome)) : Prop where
  /-- The bytes go out as they were handed out, without gap or repetition. -/
  in_order : yielded run <+: handedOut (run.flatMap (·.2))
  within : (yielded run).length ≤ left
  /-- A chunk is not empty, and only the end of the source leaves one short. -/
  chunk : ∀ bytes reads, (.chunk bytes, reads) ∈ run →
    1 ≤ bytes.length ∧ bytes.length ≤ chunkSize ∧ (bytes.length < chunkSize → .ok [] ∈ reads)
  /-- While there were only chunks, a poll ends the body exactly if all was yielded that is
  promised and its first read reports the end. -/
  ended : ∀ before item reads after, run = before ++ (item, reads) :: after →
    (∀ poll ∈ before, ∃ bytes, poll.1 = .chunk bytes) →
    (item = .ended ↔ (yielded before).length = left ∧ reads.head? = some (.ok []))
  /-- A body that ends without a fault is whole. -/
  whole : .ended ∈ run.map (·.1) → (∀ fault, .fault fault ∉ run.map (·.1)) → (yielded run).length = left
  /-- Chunks, and then at most one fault before there is nothing more. -/
  shape : ∃ (chunks : List Bytes) (tail : List Item), run.map (·.1) = chunks.map Item.chunk ++ tail ∧
    (tail = [] ∨ (∃ k, tail = List.replicate (k + 1) .ended) ∨
      ∃ fault k, tail = .fault fault :: List.replicate k .ended)

namespace Faithful

theorem nil (chunkSize left : Nat) : Faithful chunkSize left [] where
  in_order := List.prefix_rfl
  within := Nat.zero_le _
  chunk _ _ h := by cases h
  ended before item reads after h := by simp at h
  whole h := by cases h
  shape := ⟨[], [], rfl, .inl rfl⟩

/-- A run goes on faithfully with a chunk that its reads account for. -/
theorem chunk_cons {bytes : Bytes} {reads : List ReadOutcome} {run : List (Item × List ReadOutcome)}
    (hbytes : bytes = handedOut reads) (hne : bytes ≠ []) (hlen : bytes.length ≤ chunkSize)
    (hshort : bytes.length < chunkSize → .ok [] ∈ reads) (hhead : reads.head? ≠ some (.ok []))
    (hleft : bytes.length ≤ left) (h : Faithful chunkSize (left - bytes.length) run) :
    Faithful chunkSize left ((.chunk bytes, reads) :: run) where
  in_order := by
    rw [yielded_cons, List.flatMap_cons, handedOut_append, ← hbytes]
    exact (List.prefix_append_right_inj bytes).2 h.in_order
  within := by
    have := h.within
    rw [yielded_cons, Item.bytes, List.length_append]
    omega
  chunk bytes' reads' hm := by
    rcases List.mem_cons.1 hm with e | hm
    · cases e
      exact ⟨List.length_pos_iff.2 hne, hlen, hshort⟩
    · exact h.chunk bytes' reads' hm
  ended before item reads' after hrun hbefore := by
    cases before with
    | nil =>
      -- A poll that yields a chunk does not begin with the end of the source.
      obtain ⟨e, -⟩ := List.cons.inj hrun
      cases e
      simp [hhead]
    | cons poll before =>
      obtain ⟨rfl, hrest⟩ := List.cons.inj hrun
      rw [h.ended before item reads' after hrest fun poll hp => hbefore poll (List.mem_cons_of_mem _ hp),
        yielded_cons, Item.bytes, List.length_append]
      have : (yielded before).length = left - bytes.length ↔
          bytes.length + (yielded before).length = left := by omega
      rw [this]
  whole hended hfault := by
    have hended' : .ended ∈ run.map (·.1) := by simpa using hended
    have := h.whole hended' fun fault hf => hfault fault (List.mem_cons_of_mem _ hf)
    rw [yielded_cons, Item.bytes, List.length_append]
    omega
  shape := by
    obtain ⟨chunks, tail, hrun, htail⟩ := h.shape
    exact ⟨bytes :: chunks, tail, by rw [List.map_cons, hrun]; rfl, htail⟩

theorem yielded_replicate_ended (k : Nat) : yielded (List.replicate k (.ended, [])) = [] := by
  induction k with
  | zero => rfl
  | succ k ih => rw [List.replicate_succ, yielded_cons, ih]; rfl

/-- A run stops faithfully at an item that is no chunk, if it is the end exactly when it
should be. -/
theorem stop {item : Item} {reads : List ReadOutcome} (hchunk : ∀ bytes, item ≠ .chunk bytes)
    (hended : item = .ended ↔ left = 0 ∧ reads.head? = some (.ok [])) (k : Nat) :
    Faithful chunkSize left ((item, reads) :: List.replicate k (.ended, [])) := by
  have hyielded : yielded ((item, reads) :: List.replicate k (.ended, [])) = [] := by
    rw [yielded_cons, yielded_replicate_ended, List.append_nil]
    cases item with
    | chunk bytes => exact absurd rfl (hchunk bytes)
    | fault fault => rfl
    | ended => rfl
  constructor
  case in_order => rw [hyielded]; exact List.nil_prefix
  case within => rw [hyielded]; exact Nat.zero_le _
  case chunk =>
    intro bytes reads' hm
    rcases List.mem_cons.1 hm with e | hm
    · cases e
      exact absurd rfl (hchunk bytes)
    · cases (List.mem_replicate.1 hm).2
  case ended =>
    intro before item' reads' after hrun hbefore
    cases before with
    | nil =>
      obtain ⟨e, -⟩ := List.cons.inj hrun
      cases e
      rw [hended, show (yielded []).length = 0 from rfl, eq_comm]
    | cons poll before =>
      obtain ⟨rfl, -⟩ := List.cons.inj hrun
      obtain ⟨bytes, hb⟩ := hbefore _ (List.mem_cons_self ..)
      exact absurd hb (hchunk bytes)
  case whole =>
    intro _ hfault
    rw [hyielded]
    cases item with
    | chunk bytes => exact absurd rfl (hchunk bytes)
    | fault fault => exact absurd (List.mem_cons_self ..) (hfault fault)
    | ended => exact (hended.1 rfl).1.symm
  case shape =>
    refine ⟨[], item :: List.replicate k .ended, by simp, .inr ?_⟩
    cases item with
    | chunk bytes => exact absurd rfl (hchunk bytes)
    | fault fault => exact .inr ⟨fault, k, rfl⟩
    | ended => exact .inl ⟨k, List.replicate_succ.symm⟩

end Faithful

/-! ## Every run is faithful -/

namespace Polled

/-- What one poll of an open stream does: it yields a chunk that its reads account for, or
it stops. -/
theorem poll_active (hc : 1 ≤ chunkSize) {s : BlobStream σ} (hs : s.sent ≤ s.declared) :
    let reads := Polled.reads chunkSize (.active s)
    (∃ bytes s', (poll chunkSize (.active s)).value = (.chunk bytes, .active s') ∧ bytes = handedOut reads ∧
      bytes ≠ [] ∧ bytes.length ≤ chunkSize ∧ (bytes.length < chunkSize → .ok [] ∈ reads) ∧
      reads.head? ≠ some (.ok []) ∧ s'.declared = s.declared ∧ s'.sent = s.sent + bytes.length ∧
      s'.sent ≤ s.declared) ∨
    ∃ item, (poll chunkSize (.active s)).value = (item, .finished) ∧ (∀ bytes, item ≠ .chunk bytes) ∧
      (item = .ended ↔ s.declared - s.sent = 0 ∧ reads.head? = some (.ok [])) := by
  intro reads
  have hreads : Fills chunkSize reads (fill chunkSize s.source).1 := (s.next_recording chunkSize).2
  have hhead := hreads.head hc
  have hanswer := answers_poll chunkSize s
  revert hanswer
  generalize fill chunkSize s.source = filled at hreads hhead
  generalize poll chunkSize (.active s) = answer
  intro hanswer
  cases hanswer with
  | failed fault source => exact .inr ⟨_, rfl, by simp, by simp [hhead]⟩
  | early source hlt =>
    refine .inr ⟨_, rfl, by simp, ?_⟩
    simp only [reduceCtorEq, false_iff]
    omega
  | ended source hle =>
    refine .inr ⟨_, rfl, by simp, ?_⟩
    simp only [true_iff]
    exact ⟨by omega, hhead.2 rfl⟩
  | withheld bytes source hne hlt => exact .inr ⟨_, rfl, by simp, by simp [hhead, hne]⟩
  | chunk bytes source hne hle =>
    obtain ⟨hbytes, hlen, hshort⟩ := hreads.content bytes rfl
    refine .inl ⟨bytes, _, rfl, hbytes, hne, hlen, hshort, ?_, rfl, rfl, hle⟩
    rw [Ne, hhead]
    simpa using hne

/-- However many polls, a run over an open stream is faithful to what is left of its promise. -/
theorem faithful_trace (hc : 1 ≤ chunkSize) (n : Nat) {s : BlobStream σ} (hs : s.sent ≤ s.declared) :
    Faithful chunkSize (s.declared - s.sent) (trace chunkSize n (.active s)) := by
  -- What a chunk counts against the promise is what the rest of the run has less of it.
  induction n generalizing s with
  | zero => exact .nil ..
  | succ n ih =>
    rw [trace]
    rcases poll_active hc hs with
      ⟨bytes, s', hpoll, hbytes, hne, hlen, hshort, hhead, hd, hsent, hle⟩ | ⟨item, hpoll, hchunk, hended⟩ <;>
      rw [hpoll]
    · have hrest := ih (hd ▸ hle)
      rw [hd, hsent, Nat.sub_add_eq] at hrest
      exact .chunk_cons hbytes hne hlen hshort hhead (by omega) hrest
    · rw [trace_finished]
      exact .stop hchunk hended n

end Polled

/-- A streamed body keeps what its length promised, whatever its source does and however
often it is polled: the items of the polls, each with the reads its poll made, are a
faithful run over all that is declared. -/
theorem BlobStream.polls_faithful (source : σ) (blobId : BlobId) (declared : Nat) {chunkSize : Nat}
    (hc : 1 ≤ chunkSize) (n : Nat) :
    let stream : BlobStream σ := ⟨source, blobId, declared, 0⟩
    let run := Polled.trace chunkSize n (.active stream)
    run.map (·.1) = (Polled.polls chunkSize n (.active stream)).value.1 ∧
      Faithful chunkSize declared run := by
  intro stream run
  have h : Faithful chunkSize (stream.declared - stream.sent) run :=
    Polled.faithful_trace hc n (Nat.zero_le _)
  exact ⟨Polled.map_trace chunkSize n _, h⟩

/-- A source that pauses twice where it is not at its end yet: the first pause leaves a
chunk short, and at the second the body breaks off. -/
theorem polls_faithful_of_pauses :
    let run := Polled.trace 2 5
      (.active (⟨⟨[1, 2, 3, 4], 0, [1, 0, 2, 1, 0, 0], none⟩, ⟨"b", by decide⟩, 5, 0⟩ : BlobStream Script))
    1 ≤ 2 ∧ Faithful 2 5 run ∧
      run.map (·.1) = [.chunk [1], .chunk [2, 3], .chunk [4], .fault (.endedEarly 4 5), .ended] := by
  have hc : 1 ≤ 2 := by decide
  obtain ⟨-, hfaithful⟩ := BlobStream.polls_faithful
    (⟨[1, 2, 3, 4], 0, [1, 0, 2, 1, 0, 0], none⟩ : Script) ⟨"b", by decide⟩ 5 hc 5
  exact ⟨hc, hfaithful, by decide +kernel⟩

end DownloadGateway
