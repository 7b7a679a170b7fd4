import DownloadGateway.Proofs.BlobStream
import Mathlib.Algebra.Order.Floor.Div
/-!
# How a body is cut

A source may hand out its bytes in pieces of any size. `HandsOut` says what bytes it has
left, whatever it is asked for; a chunk is filled with as many of them as there is room for
(`fill_of_handsOut`), so the cut of the source leaves no mark on the body. What a body is
instead cut into are the `pieces` of the chunk size, and `outcome` lists its items.
-/

namespace DownloadGateway

variable {σ : Type} [ByteSource σ] {chunkSize room size n : Nat} {data : Bytes} {s : σ}

/-! ## Sources that hand out given bytes -/

/-- Asked for so many bytes at a time, a source hands out `data` in order, and it reports
its end exactly when nothing is left. -/
def Serves : List Nat → Bytes → σ → Prop
  | [], _, _ => True
  | n :: ns, data, s =>
    match ByteSource.read n s with
    | (.error _, _) => False
    | (.ok piece, s') => piece <+: data ∧ (piece = [] → data = []) ∧ Serves ns (data.drop piece.length) s'

/-- A source that hands out `data`, in pieces of any size, and then reports its end for good,
whatever it is asked for. -/
def HandsOut (data : Bytes) (s : σ) : Prop := ∀ lengths : List Nat, (∀ n ∈ lengths, 0 < n) → Serves lengths data s

theorem HandsOut.read (h : HandsOut data s) (hn : 0 < n) :
    ∃ piece s', ByteSource.read n s = (.ok piece, s') ∧ piece <+: data ∧ (piece = [] → data = []) ∧
      HandsOut (data.drop piece.length) s' := by
  have hserves : ∀ ns : List Nat, (∀ m ∈ ns, 0 < m) → Serves (n :: ns) data s := fun ns hns =>
    h (n :: ns) (List.forall_mem_cons.2 ⟨hn, hns⟩)
  simp only [Serves] at hserves
  split at hserves
  · exact absurd (hserves [] (by simp)) id
  · rename_i piece s' hread
    obtain ⟨hfront, hend, -⟩ := hserves [] (by simp)
    exact ⟨piece, s', hread, hfront, hend, fun ns hns => (hserves ns hns).2.2⟩

/-- A source hands out what an invariant of its reads says is left. -/
theorem HandsOut.of_invariant (R : Bytes → σ → Prop)
    (hread : ∀ {n data s}, 0 < n → R data s → ∃ piece s', ByteSource.read n s = (.ok piece, s') ∧
      piece <+: data ∧ (piece = [] → data = []) ∧ R (data.drop piece.length) s') (h : R data s) :
    HandsOut data s := by
  intro lengths hpos
  induction lengths generalizing data s with
  | nil => trivial
  | cons n ns ih =>
    obtain ⟨hn, hns⟩ := List.forall_mem_cons.1 hpos
    obtain ⟨piece, s', hs, hfront, hend, hrest⟩ := hread hn h
    simp only [Serves, hs]
    exact ⟨hfront, hend, ih hrest hns⟩

theorem handsOut_bytes (data : Bytes) : HandsOut data data := by
  refine HandsOut.of_invariant (fun left s => left = s) ?_ rfl
  rintro n left _ hn rfl
  refine ⟨left.take n, left.drop n, rfl, List.take_prefix .., fun h => ?_, ?_⟩
  · exact (List.take_eq_nil_iff.1 h).resolve_left (by omega)
  · rw [List.length_take, List.drop_eq_drop_iff]
    omega

/-- A script that does not fail and never pauses hands out its bytes, however short its reads. -/
theorem handsOut_script {s : Script} (hlimits : ∀ limit ∈ s.limits, 0 < limit) (hfail : s.failAfter = none) :
    HandsOut s.remaining s := by
  refine HandsOut.of_invariant
    (fun left s => left = s.remaining ∧ (∀ limit ∈ s.limits, 0 < limit) ∧ s.failAfter = none) ?_
    ⟨rfl, hlimits, hfail⟩
  rintro n _ s hn ⟨rfl, hlimits, hfail⟩
  have hread : ByteSource.read n s = (.ok (s.piece n), s.next n) :=
    if_neg (by simp [Script.failsNow, hfail])
  refine ⟨s.piece n, s.next n, hread, List.take_prefix .., fun h => ?_, rfl, ?_, hfail⟩
  · refine (List.take_eq_nil_iff.1 h).resolve_left ?_
    split
    · omega
    · rename_i limit _ hl
      have := hlimits limit (by simp [hl])
      omega
  · intro limit hm
    rcases List.mem_append.1 hm with hm | hm
    · exact hlimits limit (List.mem_of_mem_tail hm)
    · exact hlimits limit (List.mem_of_mem_take hm)

/-- A chunk takes as much of what is left as there is room for. -/
theorem fill_of_handsOut (room : Nat) (h : HandsOut data s) :
    ∃ s', fill room s = (.ok (data.take room), s') ∧ HandsOut (data.drop room) s' := by
  induction room, s using fill.induct generalizing data with
  | case1 s => exact ⟨s, by rw [fill, if_pos rfl, List.take_zero], h⟩
  | case2 room s hroom fault s' hread =>
    obtain ⟨piece, _, hs, -⟩ := h.read (Nat.pos_of_ne_zero hroom)
    rw [hread] at hs
    cases hs
  | case3 room s hroom s' hread =>
    obtain ⟨piece, _, hs, -, hend, hrest⟩ := h.read (Nat.pos_of_ne_zero hroom)
    rw [hread] at hs
    cases hs
    obtain rfl := hend rfl
    refine ⟨s', ?_, by simpa using hrest⟩
    rw [fill, if_neg hroom, hread, List.take_nil]
  | case4 room s hroom b bs s' hread ih =>
    obtain ⟨piece, _, hs, ⟨rest, rfl⟩, -, hrest⟩ := h.read (Nat.pos_of_ne_zero hroom)
    rw [hread] at hs
    cases hs
    have hle : (b :: bs).length ≤ room := ByteSource.length_le_of_read (congrArg Prod.fst hread)
    rw [List.drop_left] at hrest
    obtain ⟨s'', hfill, hrest'⟩ := ih hrest
    refine ⟨s'', ?_, ?_⟩
    · rw [fill, if_neg hroom, hread]
      simp only [hfill, Except.map, List.take_append, List.take_of_length_le hle]
    · rwa [List.drop_append, List.drop_of_length_le hle, List.nil_append]

/-! ## Pieces of one size -/

/-- The pieces of `size` bytes that data falls into; the last may be shorter. -/
def pieces (size : Nat) (data : Bytes) : List Bytes :=
  (List.range (data.length ⌈/⌉ size)).map fun i => (data.drop (i * size)).take size

theorem pieces_nil (size : Nat) : pieces size [] = [] := by
  simp [pieces]

theorem pieces_of_ne_nil (hsize : 1 ≤ size) (hdata : data ≠ []) :
    pieces size data = data.take size :: pieces size (data.drop size) := by
  have hcount : data.length ⌈/⌉ size = (data.drop size).length ⌈/⌉ size + 1 := by
    have hpos := List.length_pos_iff.2 hdata
    rw [List.length_drop, Nat.ceilDiv_eq_add_pred_div, Nat.ceilDiv_eq_add_pred_div, ← Nat.add_div_right _ hsize]
    by_cases hle : size ≤ data.length
    · congr 1
      omega
    · rw [show data.length - size = 0 by omega, Nat.div_eq_of_lt_le (k := 1) (by omega) (by omega)]
      exact (Nat.div_eq_of_lt_le (by omega) (by omega)).symm
  rw [pieces, hcount, List.range_succ_eq_map, List.map_cons, List.map_map, pieces]
  congr 1
  · rw [Nat.zero_mul, List.drop_zero]
  · refine List.map_congr_left fun i _ => ?_
    rw [Function.comp_apply, List.drop_drop, Nat.succ_mul, Nat.add_comm]

/-- A piece is full if the data reaches to its end. -/
theorem length_piece {i : Nat} (hi : i < (pieces size data).length) (hle : (i + 1) * size ≤ data.length) :
    (pieces size data)[i].length = size := by
  rw [Nat.succ_mul] at hle
  simp only [pieces, List.getElem_map, List.getElem_range, List.length_take, List.length_drop]
  omega

theorem length_pieces (size : Nat) (data : Bytes) : (pieces size data).length = data.length ⌈/⌉ size := by
  rw [pieces, List.length_map, List.length_range]

/-- Data cut into chunks of one size: they are the data, no more of them than it takes, and
all but the last are full. -/
structure IsCut (size : Nat) (data : Bytes) (chunks : List Bytes) : Prop where
  flatten : chunks.flatten = data
  length : chunks.length = data.length ⌈/⌉ size
  full : ∀ i (h : i + 1 < chunks.length), chunks[i].length = size

theorem isCut_pieces (hsize : 1 ≤ size) (data : Bytes) : IsCut size data (pieces size data) where
  flatten := by
    induction h : data.length using Nat.strong_induction_on generalizing data with
    | _ k ih =>
      by_cases hdata : data = []
      · rw [hdata, pieces_nil, List.flatten_nil]
      · have hpos := List.length_pos_iff.2 hdata
        rw [pieces_of_ne_nil hsize hdata, List.flatten_cons, ih _ ?_ (data.drop size) rfl, List.take_append_drop]
        rw [List.length_drop]
        omega
  length := length_pieces size data
  full i hi := by
    rw [length_pieces, ← not_le, ceilDiv_le_iff_le_mul hsize, Nat.mul_comm] at hi
    exact length_piece _ (by omega)

/-- The pieces that fit into less than all of the data are full. -/
theorem length_of_mem_take_pieces (size : Nat) {bound : Nat} (hbound : bound ≤ data.length) :
    ((pieces size data).take (bound / size)).length = bound / size ∧
      ∀ piece ∈ (pieces size data).take (bound / size), piece.length = size := by
  have hmul : bound / size * size ≤ data.length := (Nat.div_mul_le_self bound size).trans hbound
  have hcount : bound / size ≤ (pieces size data).length := by
    rw [length_pieces]
    exact (Nat.div_le_div_right hbound).trans (floorDiv_le_ceilDiv (a := size) (b := data.length))
  refine ⟨List.length_take_of_le hcount, fun piece hpiece => ?_⟩
  obtain ⟨i, hi, rfl⟩ := List.mem_iff_getElem.1 hpiece
  rw [List.getElem_take]
  refine length_piece _ (le_trans (Nat.mul_le_mul_right size ?_) hmul)
  rw [List.length_take_of_le hcount] at hi
  exact hi

/-! ## The items of a body -/

/-- The items of a body before its end, when `sent` bytes went out and `data` is what the source
has left: all of it, if that is no more than is promised, and what is promised in full chunks
otherwise. -/
def outcome (chunkSize declared sent : Nat) (data : Bytes) : List Item :=
  if sent + data.length = declared then (pieces chunkSize data).map .chunk
  else if sent + data.length < declared then
    (pieces chunkSize data).map .chunk ++ [.fault (.endedEarly (sent + data.length) declared)]
  else ((pieces chunkSize data).take ((declared - sent) / chunkSize)).map .chunk ++ [.fault (.oversized declared)]

/-- A chunk that keeps the promise is followed by what the rest of the data leads to. -/
theorem outcome_cons {declared sent : Nat} (hc : 1 ≤ chunkSize) (hdata : data ≠ [])
    (hle : sent + (data.take chunkSize).length ≤ declared) :
    outcome chunkSize declared sent data =
      .chunk (data.take chunkSize) ::
        outcome chunkSize declared (sent + (data.take chunkSize).length) (data.drop chunkSize) := by
  have hsum : (data.take chunkSize).length + (data.drop chunkSize).length = data.length := by
    rw [← List.length_append, List.take_append_drop]
  rw [outcome, outcome, pieces_of_ne_nil hc hdata, Nat.add_assoc, hsum]
  split
  · rfl
  split
  · rfl
  · -- The data goes on behind this chunk, so the chunk is full.
    have hfull : (data.take chunkSize).length = chunkSize := by
      rw [List.length_take] at hle ⊢
      omega
    rw [hfull] at hle ⊢
    rw [show (declared - sent) / chunkSize = (declared - (sent + chunkSize)) / chunkSize + 1 by
      rw [Nat.sub_add_eq, ← Nat.add_div_right _ hc, Nat.sub_add_cancel (by omega)]]
    rfl

/-- A chunk that breaks the promise is withheld. -/
theorem outcome_of_withheld {declared sent : Nat} (hs : sent ≤ declared)
    (hlt : declared < sent + (data.take chunkSize).length) :
    outcome chunkSize declared sent data = [.fault (.oversized declared)] := by
  rw [List.length_take] at hlt
  rw [outcome, if_neg (by omega), if_neg (by omega), Nat.div_eq_of_lt (by omega), List.take_zero]
  rfl

theorem outcome_nil {declared sent : Nat} (hs : sent ≤ declared) :
    outcome chunkSize declared sent [] =
      if sent < declared then [.fault (.endedEarly sent declared)] else [] := by
  rw [outcome, pieces_nil, List.length_nil, Nat.add_zero]
  by_cases hlt : sent < declared
  · rw [if_neg (by omega), if_pos hlt, if_pos hlt]
    rfl
  · rw [if_pos (by omega), if_neg hlt]
    rfl

namespace Polled

/-- A poll of a stream whose source hands out `data` yields the first item of its outcome, or
the end, and leaves the rest of the outcome. -/
theorem poll_of_handsOut (hc : 1 ≤ chunkSize) {s : BlobStream σ} (hs : s.sent ≤ s.declared)
    (h : HandsOut data s.source) :
    let items := outcome chunkSize s.declared s.sent data
    (items = [] ∧ (poll chunkSize (.active s)).value = (.ended, .finished)) ∨
    (∃ fault, items = [.fault fault] ∧ (poll chunkSize (.active s)).value = (.fault fault, .finished)) ∨
    ∃ bytes s', items = .chunk bytes :: outcome chunkSize s'.declared s'.sent (data.drop chunkSize) ∧
      (poll chunkSize (.active s)).value = (.chunk bytes, .active s') ∧ s'.sent ≤ s'.declared ∧
      HandsOut (data.drop chunkSize) s'.source := by
  intro items
  obtain ⟨source, hfill, hrest⟩ := fill_of_handsOut chunkSize h
  have hanswer := answers_poll chunkSize s
  rw [hfill] at hanswer
  have hnil : data.take chunkSize = [] → data = [] := fun h => (List.take_eq_nil_iff.1 h).resolve_left (by omega)
  generalize hbytes : data.take chunkSize = bytes at hanswer hnil
  generalize poll chunkSize (.active s) = answer at hanswer ⊢
  cases hanswer with
  | early _ hlt =>
    obtain rfl := hnil rfl
    exact .inr (.inl ⟨_, (outcome_nil hs).trans (if_pos hlt), rfl⟩)
  | ended _ hle =>
    obtain rfl := hnil rfl
    exact .inl ⟨(outcome_nil hs).trans (if_neg hle.not_gt), rfl⟩
  | withheld _ _ _ hlt =>
    subst hbytes
    exact .inr (.inl ⟨_, outcome_of_withheld hs hlt, rfl⟩)
  | chunk _ _ hne hle =>
    subst hbytes
    have hdata : data ≠ [] := fun h => hne (by rw [h, List.take_nil])
    exact .inr (.inr ⟨_, _, outcome_cons hc hdata hle, rfl, hle, hrest⟩)

/-- However many polls, a stream yields what its outcome lists, and then the end. -/
theorem polls_of_handsOut (hc : 1 ≤ chunkSize) (n : Nat) {s : BlobStream σ} (hs : s.sent ≤ s.declared)
    (h : HandsOut data s.source) :
    (polls chunkSize n (.active s)).value.1 = (outcome chunkSize s.declared s.sent data).takeD n .ended := by
  induction n generalizing data s with
  | zero => rfl
  | succ n ih =>
    rw [polls_succ, List.takeD]
    rcases poll_of_handsOut hc hs h with
      ⟨hitems, hpoll⟩ | ⟨fault, hitems, hpoll⟩ | ⟨bytes, s', hitems, hpoll, hs', hrest⟩ <;>
      simp only [hitems, hpoll]
    · rw [polls_finished, List.tail_nil, List.takeD_nil]
      rfl
    · rw [polls_finished, List.tail_cons, List.takeD_nil]
      rfl
    · rw [ih hs' hrest]
      rfl

/-- Data as long as promised goes out whole, and then there is only the end. -/
theorem polls_of_whole (hc : 1 ≤ chunkSize) (n : Nat) {source : σ} (h : HandsOut data source) (blobId : BlobId) :
    (polls chunkSize n (.active ⟨source, blobId, data.length, 0⟩)).value.1 =
      ((pieces chunkSize data).map Item.chunk).takeD n .ended := by
  rw [polls_of_handsOut hc n (Nat.zero_le _) h, outcome, if_pos (Nat.zero_add _)]

end Polled

/-- The items of a body over a source that hands out `data` are fixed by the data, the chunk
size and the promised length, however the source cuts its reads. Data as long as promised is
cut into chunks; so is shorter data, with a fault behind it that tells both lengths; longer data
goes out in full chunks, as many as were promised, and then a fault. Polls beyond these items
yield the end. -/
theorem BlobStream.items_of_handsOut {source : σ} (hc : 1 ≤ chunkSize) (h : HandsOut data source)
    (blobId : BlobId) (declared n : Nat) :
    let items := (Polled.polls chunkSize n (.active ⟨source, blobId, declared, 0⟩)).value.1
    let chunks := pieces chunkSize data
    let promised := chunks.take (declared / chunkSize)
    IsCut chunkSize data chunks ∧
      (data.length = declared → items = (chunks.map Item.chunk).takeD n .ended) ∧
      (data.length < declared →
        items = (chunks.map Item.chunk ++ [Item.fault (.endedEarly data.length declared)]).takeD n .ended) ∧
      (declared < data.length →
        promised.length = declared / chunkSize ∧ (∀ chunk ∈ promised, chunk.length = chunkSize) ∧
          items = (promised.map Item.chunk ++ [Item.fault (.oversized declared)]).takeD n .ended) := by
  intro items chunks promised
  have hitems : items = (outcome chunkSize declared 0 data).takeD n .ended :=
    Polled.polls_of_handsOut hc n (Nat.zero_le _) h
  rw [outcome, Nat.zero_add] at hitems
  refine ⟨isCut_pieces hc data, fun heq => ?_, fun hlt => ?_, fun hlt => ?_⟩
  · rw [hitems, if_pos heq]
  · rw [hitems, if_neg hlt.ne, if_pos hlt]
  · obtain ⟨hcount, hfull⟩ := length_of_mem_take_pieces chunkSize hlt.le
    refine ⟨hcount, hfull, ?_⟩
    rw [hitems, if_neg hlt.ne', if_neg hlt.le.not_gt]
    rfl

/-- Seven bytes where five are promised, in reads that fit neither the chunks nor each other. -/
theorem items_of_uneven_reads :
    let source : Script := ⟨[1, 2, 3, 4, 5, 6, 7], 0, [1, 4, 2], none⟩
    1 ≤ 2 ∧ HandsOut [1, 2, 3, 4, 5, 6, 7] source ∧
      (Polled.polls 2 4 (.active ⟨source, ⟨"b", by decide⟩, 5, 0⟩)).value.1 =
        [.chunk [1, 2], .chunk [3, 4], .fault (.oversized 5), .ended] := by
  intro source
  have hc : 1 ≤ 2 := by decide
  have hsource : HandsOut [1, 2, 3, 4, 5, 6, 7] source := handsOut_script (s := source) (by decide) rfl
  obtain ⟨-, -, -, hover⟩ := BlobStream.items_of_handsOut hc hsource ⟨"b", by decide⟩ 5 4
  obtain ⟨-, -, hitems⟩ := hover (by decide)
  exact ⟨hc, hsource, hitems.trans (by decide +kernel)⟩

end DownloadGateway
