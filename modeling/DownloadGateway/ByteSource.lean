import DownloadGateway.Bytes
/-!
# Byte sources

A byte source hands out its bytes in reads of limited length. A read that hands
out nothing reports the end of the source, for now: a later read may find more.
Two sources are given: bytes held in memory, and a `Script`, which prescribes how
much each read hands out and where reading fails.
-/

namespace DownloadGateway

/-- Why a read failed. -/
inductive ReadFault where
  | connectionReset (reason : String)
  deriving Repr, DecidableEq

def ReadFault.message : ReadFault → String
  | .connectionReset reason => reason

/-- States of a source of bytes. -/
class ByteSource (σ : Type) where
  /-- Hands out at most the given number of bytes. -/
  read : Nat → σ → Except ReadFault Bytes × σ
  length_le_of_read : ∀ {n : Nat} {s : σ} {bytes : Bytes}, (read n s).1 = .ok bytes → bytes.length ≤ n

/-- Bytes in memory are handed out as asked for. -/
instance : ByteSource Bytes where
  read n bytes := (.ok (bytes.take n), bytes.drop n)
  length_le_of_read h := by
    simp only [Except.ok.injEq] at h
    subst h
    exact List.length_take_le ..

/-- A source whose reads are prescribed. -/
structure Script where
  /-- What is still to be handed out. -/
  remaining : Bytes
  /-- How many bytes have been handed out. -/
  served : Nat := 0
  /-- The most bytes that each read hands out, used in turn; zero makes that read
  report the end, and an empty list sets no limit. -/
  limits : List Nat := []
  /-- A read fails once that many bytes have been handed out. -/
  failAfter : Option Nat := none
  deriving Repr, DecidableEq

namespace Script

/-- The failure of a scripted read. -/
def fault : ReadFault := .connectionReset "simulated failure"

/-- Whether the next read fails. -/
def failsNow (s : Script) : Bool := s.failAfter.any (· ≤ s.served)

/-- The bytes of the next read, if it does not fail. -/
def piece (n : Nat) (s : Script) : Bytes :=
  s.remaining.take (match s.limits with | [] => n | limit :: _ => min n limit)

/-- The script after a read that did not fail. -/
def next (n : Nat) (s : Script) : Script :=
  { s with
    remaining := s.remaining.drop (s.piece n).length
    served := s.served + (s.piece n).length
    limits := s.limits.tail ++ s.limits.take 1 }

end Script

instance : ByteSource Script where
  read n s := if s.failsNow then (.error Script.fault, s) else (.ok (s.piece n), s.next n)
  length_le_of_read {n s bytes} h := by
    split at h
    · cases h
    · simp only [Except.ok.injEq] at h
      subst h
      simp only [Script.piece, List.length_take]
      split <;> omega

end DownloadGateway
