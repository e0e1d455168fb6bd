import Sluice.Octets.Basic
import Sluice.Stream.IoError
import Sluice.Stream.Outcome

/-
  The sending side of a connection. A sink takes what it has room for, `perWrite` octets at a time
  at most; once its room is used up it refuses, or stalls for ever. `accepted` is the view: all
  octets taken so far. One write takes a front of what it is offered (`write_done`).
-/

namespace Sluice

/-- What becomes of a write once there is no room left. -/
inductive WhenFull where
  | refuses (error : IoError)
  | stalls
  deriving DecidableEq, Repr

/-- A receiver of octets. -/
structure Sink where
  /-- What each write took, the last write first. -/
  pieces : List Octets := []
  /-- How many octets it will still take; no bound if absent. -/
  room : Option Nat := none
  /-- The most that one write takes; no bound if absent. -/
  perWrite : Option Nat := none
  whenFull : WhenFull := .refuses ⟨.brokenPipe, "broken pipe"⟩
  deriving DecidableEq, Repr

namespace Sink

/-- All octets taken so far. -/
def accepted (s : Sink) : Octets :=
  s.pieces.reverse.flatten

/-- How many octets each write took. -/
def sizes (s : Sink) : List Nat :=
  s.pieces.reverse.map List.length

/-- The most that the next write takes; no bound if absent. -/
def most (s : Sink) : Option Nat :=
  Option.merge min s.perWrite s.room

/-- The octets that one write takes, of those offered. -/
def front (data : Octets) (s : Sink) : Octets :=
  match s.most with
  | none => data
  | some n => data.take n

/-- Offers octets once; says how many were taken, always from the front. -/
def write (data : Octets) (s : Sink) : Outcome IoError Nat × Sink :=
  if s.room = some 0 then
    match s.whenFull with
    | .refuses e => (.failed e, s)
    | .stalls => (.pending, s)
  else
    let front := s.front data
    let n := front.length
    (.done n, { s with pieces := front :: s.pieces, room := s.room.map (· - n) })

/-- Offers octets until all are taken. -/
def writeAll (data : Octets) (s : Sink) : Outcome IoError Unit × Sink :=
  match data with
  | [] => (.done (), s)
  | b :: rest =>
    match s.write (b :: rest) with
    | (.failed e, s) => (.failed e, s)
    | (.pending, s) => (.pending, s)
    | (.done 0, s) => (.failed .nothingWritten, s)
    | (.done (n + 1), s) => writeAll (rest.drop n) s
termination_by data.length
decreasing_by simp only [List.length_drop, List.length_cons]; omega

theorem front_eq_take (data : Octets) (s : Sink) :
    s.front data = data.take (s.front data).length := by
  unfold front
  split
  · simp
  · simp [← List.take_eq_take_min]

theorem write_done {data : Octets} {s s' : Sink} {n : Nat} (h : s.write data = (.done n, s')) :
    n ≤ data.length ∧ s'.accepted = s.accepted ++ data.take n := by
  unfold write at h
  split at h
  · split at h <;> simp at h
  · simp only [Prod.mk.injEq, Outcome.done.injEq] at h
    obtain ⟨rfl, rfl⟩ := h
    have e := s.front_eq_take data
    refine ⟨?_, by simp [accepted, ← e]⟩
    rw [e, List.length_take]
    omega

end Sink

end Sluice
