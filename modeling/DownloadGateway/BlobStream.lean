import DownloadGateway.ByteSource
import DownloadGateway.Event
/-!
# Streaming a blob

A blob goes out in chunks. Each chunk is filled by as many reads as it takes and
is shorter than the chunk size only where the source reported its end. The size
was promised to the client before the first chunk, so a source that ends early or
runs past it is a fault, and a chunk that would break the promise is withheld.

A stream ends once: at its end, at a fault, or when it is dropped. Ending releases
the source and records whether the blob was sent whole.
-/

namespace DownloadGateway

/-- Why a stream cannot go on. -/
inductive StreamFault where
  | endedEarly (sent declared : Nat)
  | oversized (declared : Nat)
  | read (fault : ReadFault)
  deriving Repr, DecidableEq

def StreamFault.message : StreamFault → String
  | .endedEarly sent declared => s!"blob ended after {sent} of {declared} bytes"
  | .oversized declared => s!"blob is larger than its declared {declared} bytes"
  | .read fault => fault.message

/-- Reads until a chunk of `room` bytes is full or a read hands out nothing. -/
def fill {σ : Type} [ByteSource σ] (room : Nat) (s : σ) : Except ReadFault Bytes × σ :=
  if room = 0 then (.ok [], s)
  else match ByteSource.read room s with
    | (.error fault, s') => (.error fault, s')
    | (.ok [], s') => (.ok [], s')
    | (.ok (b :: bs), s') =>
      let more := fill (room - (b :: bs).length) s'
      (more.1.map ((b :: bs) ++ ·), more.2)
  termination_by room
  decreasing_by simp only [List.length_cons]; omega

/-- An open stream. -/
structure BlobStream (σ : Type) where
  source : σ
  blobId : BlobId
  /-- The size promised to the client. -/
  declared : Nat
  /-- How many bytes have been counted against the promise. -/
  sent : Nat := 0

/-- What asking a stream for its next chunk leads to. -/
inductive Progress (σ : Type) where
  | chunk (bytes : Bytes) (stream : BlobStream σ)
  | ended (stream : BlobStream σ)
  | failed (fault : StreamFault) (stream : BlobStream σ)

namespace BlobStream

variable {σ : Type} [ByteSource σ]

/-- The next chunk. Bytes are counted as sent before they are measured against the
promise, so the count includes a chunk that is withheld. -/
def next (chunkSize : Nat) (s : BlobStream σ) : Progress σ :=
  match fill chunkSize s.source with
  | (.error fault, source) => .failed (.read fault) { s with source }
  | (.ok bytes, source) =>
    if bytes = [] then
      if s.sent < s.declared then .failed (.endedEarly s.sent s.declared) { s with source }
      else .ended { s with source }
    else
      let s' := { s with source, sent := s.sent + bytes.length }
      if s'.sent > s.declared then .failed (.oversized s.declared) s' else .chunk bytes s'

/-- A chunk is counted, is not empty, and stays within the promise. -/
theorem of_next_eq_chunk {chunkSize : Nat} {s s' : BlobStream σ} {bytes : Bytes}
    (h : s.next chunkSize = .chunk bytes s') :
    bytes ≠ [] ∧ s'.sent = s.sent + bytes.length ∧ s'.sent ≤ s.declared ∧
      s'.declared = s.declared ∧ s'.blobId = s.blobId := by
  unfold next at h
  split at h
  · cases h
  · split at h
    · split at h <;> cases h
    · dsimp only at h
      split at h
      · cases h
      · rename_i hne hle
        simp only [Progress.chunk.injEq] at h
        obtain ⟨rfl, rfl⟩ := h
        exact ⟨hne, rfl, by simpa using hle, rfl, rfl⟩

omit [ByteSource σ] in
/-- The events of giving the source back. -/
def release (s : BlobStream σ) (completed : Bool) : List Event :=
  [.log (if completed then .streamCompleted s.blobId s.sent
      else .streamReleased s.blobId s.sent s.declared),
    .call .closeContent]

omit [ByteSource σ] in
/-- The events of a fault: it is recorded, then the source is given back. -/
def fail (s : BlobStream σ) (fault : StreamFault) : List Event :=
  .log (.streamFailed s.blobId s.sent fault.message) :: s.release false

end BlobStream

/-- A stream as its consumer sees it: open, or ended for good. -/
inductive Polled (σ : Type) where
  | active (stream : BlobStream σ)
  | finished

/-- What a consumer gets from one poll. -/
inductive Item where
  | chunk (bytes : Bytes)
  | fault (fault : StreamFault)
  | ended
  deriving Repr, DecidableEq

namespace Polled

variable {σ : Type} [ByteSource σ]

/-- Asks for the next item. A fault or the end gives the source back before the
consumer learns of it; from then on there is only the end. -/
def poll (chunkSize : Nat) : Polled σ → Traced (Item × Polled σ)
  | .finished => ⟨(.ended, .finished), []⟩
  | .active s =>
    match s.next chunkSize with
    | .chunk bytes s' => ⟨(.chunk bytes, .active s'), []⟩
    | .ended s' => ⟨(.ended, .finished), s'.release true⟩
    | .failed fault s' => ⟨(.fault fault, .finished), s'.fail fault⟩

/-- The items of so many polls. -/
def polls (chunkSize : Nat) : Nat → Polled σ → Traced (List Item × Polled σ)
  | 0, p => pure ([], p)
  | n + 1, p => do
    let (item, p) ← p.poll chunkSize
    let (items, p) ← polls chunkSize n p
    pure (item :: items, p)

omit [ByteSource σ] in
/-- Gives up on a stream; one that has ended has nothing left to give back. -/
def drop : Polled σ → Traced Unit
  | .finished => pure ()
  | .active s => ⟨(), s.release false⟩

end Polled

/-- What a consumer received of a body. -/
structure Delivery where
  frames : List Bytes
  fault : Option StreamFault := none
  deriving Repr, DecidableEq

namespace Delivery

/-- A delivery with one more frame in front. -/
def cons (frame : Bytes) (d : Delivery) : Delivery := { d with frames := frame :: d.frames }

end Delivery

/-- Takes a stream to its end, or drops it after `limit` chunks. -/
def BlobStream.deliver {σ : Type} [ByteSource σ] (chunkSize : Nat) (limit : Option Nat)
    (s : BlobStream σ) : Traced Delivery :=
  if limit = some 0 then ⟨⟨[], none⟩, s.release false⟩
  else match h : s.next chunkSize with
    | .chunk bytes s' =>
      have : s'.declared - s'.sent < s.declared - s.sent := by
        obtain ⟨hne, hs, hle, hd, _⟩ := of_next_eq_chunk h
        have := List.length_pos_iff.2 hne
        omega
      Delivery.cons bytes <$> s'.deliver chunkSize (limit.map (· - 1))
    | .ended s' => ⟨⟨[], none⟩, s'.release true⟩
    | .failed fault s' => ⟨⟨[], some fault⟩, s'.fail fault⟩
  termination_by s.declared - s.sent

end DownloadGateway
