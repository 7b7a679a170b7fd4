import DownloadGateway.Proofs.BlobStream
/-!
# A body is read no faster than it is taken

A source is read only while its body is polled, and a poll reads no more than fits into one chunk.
So what was read and has not gone out is one chunk at most, at every moment of a run (`Moment`),
nothing once a chunk has gone out, and after its end a body reads no more.
-/

namespace DownloadGateway

variable {σ : Type} [ByteSource σ] {chunkSize : Nat} {run : List (Item × List ReadOutcome)}
  {out taken : Bytes}

/-! ## What one poll reads -/

/-- Filling a chunk reads no more than there is room for, also if a read fails in the end. -/
theorem length_handedOut_fill (room : Nat) (r : Recorded σ) :
    ∃ reads, (fill room r).2.reads = r.reads ++ reads ∧ (handedOut reads).length ≤ room := by
  fun_induction fill room r with
  | case1 r => exact ⟨[], (List.append_nil _).symm, Nat.le_refl 0⟩
  | case2 room r hroom fault r' hread =>
    rw [read_recorded, Prod.mk.injEq] at hread
    obtain ⟨hfault, rfl⟩ := hread
    exact ⟨[.error fault], by rw [hfault], Nat.zero_le _⟩
  | case3 room r hroom r' hread =>
    rw [read_recorded, Prod.mk.injEq] at hread
    obtain ⟨hend, rfl⟩ := hread
    exact ⟨[.ok []], by rw [hend], Nat.zero_le _⟩
  | case4 room r hroom b bs r' hread more ih =>
    -- Each read is offered only the room that those before it left.
    have hle : (b :: bs).length ≤ room := ByteSource.length_le_of_read (congrArg Prod.fst hread)
    rw [read_recorded, Prod.mk.injEq] at hread
    obtain ⟨hpiece, rfl⟩ := hread
    obtain ⟨reads, hreads, hlength⟩ := ih
    refine ⟨.ok (b :: bs) :: reads, ?_, ?_⟩
    · rw [hreads, hpiece, List.append_assoc, List.singleton_append]
    · rw [handedOut_cons_ok, List.length_append]
      omega

theorem BlobStream.source_next (chunkSize : Nat) (s : BlobStream σ) :
    (s.next chunkSize).stream.source = (fill chunkSize s.source).2 := by
  unfold next
  split
  · rename_i hfill
    rw [hfill]
    rfl
  · rename_i hfill
    rw [hfill]
    split
    · split <;> rfl
    · dsimp only
      split <;> rfl

theorem Polled.length_handedOut_reads (chunkSize : Nat) (p : Polled σ) :
    (handedOut (p.reads chunkSize)).length ≤ chunkSize := by
  cases p with
  | finished => exact Nat.zero_le _
  | active s =>
    obtain ⟨reads, hreads, hlength⟩ := length_handedOut_fill chunkSize s.recording.source
    rw [Polled.reads, BlobStream.source_next, hreads]
    exact hlength

/-! ## Moments of a run -/

/-- What has gone out and what was taken from the source at a moment of a run: before or behind a
poll, or behind some of the reads that a poll makes. -/
inductive Moment : List (Item × List ReadOutcome) → Bytes → Bytes → Prop
  | between (before after : List (Item × List ReadOutcome)) :
    Moment (before ++ after) (yielded before) (handedOut (before.flatMap (·.2)))
  | reading (before after : List (Item × List ReadOutcome)) (item : Item) (done rest : List ReadOutcome) :
    Moment (before ++ (item, done ++ rest) :: after) (yielded before) (handedOut (before.flatMap (·.2) ++ done))

/-- A moment of a run falls into its first poll or behind it. -/
theorem Moment.of_cons {item : Item} {reads : List ReadOutcome} (h : Moment ((item, reads) :: run) out taken) :
    (out = [] ∧ taken <+: handedOut reads) ∨
      ∃ out' taken', Moment run out' taken' ∧ out = item.bytes ++ out' ∧ taken = handedOut reads ++ taken' := by
  generalize hrun : (item, reads) :: run = whole at h
  cases h with
  | between before after =>
    cases before with
    | nil => exact .inl ⟨rfl, List.nil_prefix⟩
    | cons poll before =>
      obtain ⟨rfl, rfl⟩ := List.cons.inj hrun
      refine .inr ⟨_, _, .between before after, rfl, ?_⟩
      rw [List.flatMap_cons, handedOut_append]
  | reading before after item' done rest =>
    cases before with
    | nil =>
      obtain ⟨hpoll, rfl⟩ := List.cons.inj hrun
      cases hpoll
      refine .inl ⟨rfl, ?_⟩
      rw [List.flatMap_nil, List.nil_append, handedOut_append]
      exact List.prefix_append ..
    | cons poll before =>
      obtain ⟨rfl, rfl⟩ := List.cons.inj hrun
      refine .inr ⟨_, _, .reading before after item' done rest, rfl, ?_⟩
      rw [List.flatMap_cons, List.append_assoc, handedOut_append]

/-- A body that has ended neither yields nor reads. -/
theorem Moment.of_ended {k : Nat} (h : Moment (List.replicate k (.ended, [])) out taken) : out = [] ∧ taken = [] := by
  induction k generalizing out taken with
  | zero =>
    generalize hrun : List.replicate 0 (Item.ended, ([] : List ReadOutcome)) = whole at h
    cases h with
    | between before after =>
      obtain ⟨rfl, -⟩ := List.append_eq_nil_iff.1 hrun.symm
      exact ⟨rfl, rfl⟩
    | reading before after => simp at hrun
  | succ k ih =>
    rw [List.replicate_succ] at h
    rcases h.of_cons with ⟨rfl, htaken⟩ | ⟨out', taken', hrest, rfl, rfl⟩
    · exact ⟨rfl, List.prefix_nil.1 htaken⟩
    · exact ih hrest

/-! ## Paced runs -/

/-- What holds of a run that reads no faster than its body is taken. -/
structure Paced (chunkSize : Nat) (run : List (Item × List ReadOutcome)) : Prop where
  poll_le : ∀ poll ∈ run, (handedOut poll.2).length ≤ chunkSize
  /-- Once a chunk has gone out, all that was taken has gone out. -/
  level : ∀ before bytes reads after, run = before ++ (.chunk bytes, reads) :: after →
    handedOut (before.flatMap (·.2) ++ reads) = yielded before ++ bytes
  /-- What has gone out was taken, and what is held back is one chunk at most. -/
  ahead : ∀ out taken, Moment run out taken → out <+: taken ∧ taken.length ≤ out.length + chunkSize
  /-- Behind the end or a fault there are no reads. -/
  quiet : ∀ before item reads after, run = before ++ (item, reads) :: after →
    (∀ bytes, item ≠ .chunk bytes) → ∀ poll ∈ after, poll.2 = []

namespace Paced

theorem nil (chunkSize : Nat) : Paced chunkSize [] where
  poll_le _ h := by cases h
  level before bytes reads after h := by simp at h
  ahead out taken h := by
    obtain ⟨rfl, rfl⟩ := Moment.of_ended (k := 0) h
    exact ⟨List.prefix_rfl, Nat.zero_le _⟩
  quiet before item reads after h := by simp at h

/-- While the first poll of a run reads, what it took is all that is held back. -/
theorem ahead_nil {reads : List ReadOutcome} (hlen : (handedOut reads).length ≤ chunkSize)
    (htaken : taken <+: handedOut reads) : [] <+: taken ∧ taken.length ≤ ([] : Bytes).length + chunkSize := by
  have hle := htaken.length_le
  exact ⟨List.nil_prefix, by rw [List.length_nil]; omega⟩

/-- A run goes on at its pace with a chunk of all that its poll read. -/
theorem chunk_cons {reads : List ReadOutcome} (hlen : (handedOut reads).length ≤ chunkSize)
    (h : Paced chunkSize run) : Paced chunkSize ((.chunk (handedOut reads), reads) :: run) where
  poll_le := List.forall_mem_cons.2 ⟨hlen, h.poll_le⟩
  level before bytes reads' after hrun := by
    cases before with
    | nil =>
      obtain ⟨e, -⟩ := List.cons.inj hrun
      cases e
      rfl
    | cons poll before =>
      obtain ⟨rfl, hrest⟩ := List.cons.inj hrun
      rw [List.flatMap_cons, List.append_assoc, handedOut_append, h.level before bytes reads' after hrest,
        yielded_cons, Item.bytes, List.append_assoc]
  ahead out taken hmoment := by
    rcases hmoment.of_cons with ⟨rfl, htaken⟩ | ⟨out', taken', hrest, rfl, rfl⟩
    · exact ahead_nil hlen htaken
    · obtain ⟨hout, hheld⟩ := h.ahead out' taken' hrest
      refine ⟨(List.prefix_append_right_inj _).2 hout, ?_⟩
      rw [Item.bytes, List.length_append, List.length_append]
      omega
  quiet before item reads' after hrun hitem := by
    cases before with
    | nil =>
      obtain ⟨e, -⟩ := List.cons.inj hrun
      cases e
      exact absurd rfl (hitem _)
    | cons poll before =>
      obtain ⟨-, hrest⟩ := List.cons.inj hrun
      exact h.quiet before item reads' after hrest hitem

/-- A run stops at its pace, since what its last poll read is no more than a chunk. -/
theorem stop {item : Item} {reads : List ReadOutcome} (hitem : ∀ bytes, item ≠ .chunk bytes)
    (hlen : (handedOut reads).length ≤ chunkSize) (k : Nat) :
    Paced chunkSize ((item, reads) :: List.replicate k (.ended, [])) := by
  have hended : ∀ poll ∈ List.replicate k (Item.ended, ([] : List ReadOutcome)), poll = (.ended, []) :=
    fun poll hpoll => List.eq_of_mem_replicate hpoll
  constructor
  case poll_le =>
    refine List.forall_mem_cons.2 ⟨hlen, fun poll hpoll => ?_⟩
    rw [hended poll hpoll]
    exact Nat.zero_le _
  case level =>
    intro before bytes reads' after hrun
    have hchunk : (Item.chunk bytes, reads') ∈ (item, reads) :: List.replicate k (.ended, []) := by
      rw [hrun]
      exact List.mem_append_right _ List.mem_cons_self
    rcases List.mem_cons.1 hchunk with e | hchunk
    · exact absurd (congrArg Prod.fst e).symm (hitem bytes)
    · cases hended _ hchunk
  case ahead =>
    intro out taken hmoment
    have hbytes : item.bytes = [] := by
      cases item with
      | chunk bytes => exact absurd rfl (hitem bytes)
      | fault | ended => rfl
    rcases hmoment.of_cons with ⟨rfl, htaken⟩ | ⟨out', taken', hrest, rfl, rfl⟩
    · exact ahead_nil hlen htaken
    · obtain ⟨rfl, rfl⟩ := hrest.of_ended
      rw [hbytes, List.append_nil, List.append_nil]
      exact ahead_nil hlen List.prefix_rfl
  case quiet =>
    intro before item' reads' after hrun _ poll hpoll
    have hmem : poll ∈ List.replicate k (Item.ended, ([] : List ReadOutcome)) := by
      cases before with
      | nil =>
        obtain ⟨-, rfl⟩ := List.cons.inj hrun
        exact hpoll
      | cons first before =>
        obtain ⟨-, hrest⟩ := List.cons.inj hrun
        rw [hrest]
        exact List.mem_append_right _ (List.mem_cons_of_mem _ hpoll)
    rw [hended poll hmem]

end Paced

/-! ## Every run is paced -/

/-- However many polls, an open stream reads at the pace at which it is taken. -/
theorem Polled.paced_trace (hc : 1 ≤ chunkSize) (n : Nat) {s : BlobStream σ} (hs : s.sent ≤ s.declared) :
    Paced chunkSize (trace chunkSize n (.active s)) := by
  induction n generalizing s with
  | zero => exact .nil chunkSize
  | succ n ih =>
    have hlen := length_handedOut_reads chunkSize (.active s)
    rw [trace]
    rcases poll_active hc hs with ⟨bytes, s', hpoll, rfl, -, -, -, -, hd, -, hle⟩ | ⟨item, hpoll, hitem, -⟩ <;>
      rw [hpoll]
    · exact .chunk_cons hlen (ih (hd ▸ hle))
    · rw [trace_finished]
      exact .stop hitem hlen n

/-- A body does not run ahead of its consumer, whatever its source does and however often it is
polled: the items of the polls, each with the reads its poll made, are a run that is paced by the
chunk size. -/
theorem BlobStream.polls_paced (source : σ) (blobId : BlobId) (declared : Nat) (hc : 1 ≤ chunkSize) (n : Nat) :
    let stream : BlobStream σ := ⟨source, blobId, declared, 0⟩
    let run := Polled.trace chunkSize n (.active stream)
    run.map (·.1) = (Polled.polls chunkSize n (.active stream)).value.1 ∧ Paced chunkSize run := by
  intro stream run
  exact ⟨Polled.map_trace chunkSize n _, Polled.paced_trace hc n (Nat.zero_le _)⟩

/-- A source that runs past what is declared: the chunk that is withheld is the last that it hands
out. -/
theorem polls_paced_of_oversized :
    let run := Polled.trace 2 3
      (.active (⟨⟨[1, 2, 3, 4, 5], 0, [1, 2], none⟩, ⟨"b", by decide⟩, 3, 0⟩ : BlobStream Script))
    1 ≤ 2 ∧ Paced 2 run ∧
      run.map (fun poll => (poll.1, handedOut poll.2)) =
        [(.chunk [1, 2], [1, 2]), (.fault (.oversized 3), [3, 4]), (.ended, [])] := by
  have hc : 1 ≤ 2 := by decide
  obtain ⟨-, hpaced⟩ := BlobStream.polls_paced
    (⟨[1, 2, 3, 4, 5], 0, [1, 2], none⟩ : Script) ⟨"b", by decide⟩ 3 hc 3
  exact ⟨hc, hpaced, by decide +kernel⟩

end DownloadGateway
