import Sluice.Octets.Basic
import Sluice.Stream.IoError

/-
  The receiving side of a connection, as the sequence of what arrives on it. `unread` is the view:
  the octets still to come. `poll` is one attempt to read, `read` sits through waits; neither loses
  an octet or changes their order (`poll_unread`, `read_unread`).
-/

namespace Sluice

/-- What arrives next. -/
inductive Arrival where
  /-- Octets, read in order and never merged with the next arrival. -/
  | data (octets : Octets)
  /-- One failed read. -/
  | failure (error : IoError)
  /-- Nothing for a while. -/
  | wait
  /-- Nothing for ever. -/
  | silence
  deriving DecidableEq, Repr

/-- All that arrives, in order. Behind the last arrival the stream is at its end. -/
abbrev Source := List Arrival

/-- What one attempt to read comes to. No octets at all mean the end of the stream. -/
inductive Polled where
  | ready (octets : Octets)
  | failed (error : IoError)
  | pending
  deriving DecidableEq, Repr

namespace Polled

/-- The octets handed out. -/
def octets : Polled → Octets
  | ready s => s
  | _ => []

end Polled

namespace Source

/-- The octets still to come. -/
def unread : Source → Octets
  | [] => []
  | .data s :: rest => s ++ unread rest
  | .failure _ :: rest => unread rest
  | .wait :: rest => unread rest
  | .silence :: rest => unread rest

/-- One attempt to read at most `room` octets. -/
def poll (room : Nat) : Source → Polled × Source
  | [] => (.ready [], [])
  | .data [] :: rest => poll room rest
  | .data (b :: s) :: rest =>
    (.ready ((b :: s).take room), .data ((b :: s).drop room) :: rest)
  | .failure e :: rest => (.failed e, rest)
  | .wait :: rest => (.pending, rest)
  | .silence :: rest => (.pending, .silence :: rest)

/-- The stream once it has stopped being slow. -/
def settle : Source → Source
  | .wait :: rest => settle rest
  | .data [] :: rest => settle rest
  | s => s

/-- Reads at most `room` octets, however long that takes. Still pending means: for ever. -/
def read (room : Nat) (s : Source) : Polled × Source :=
  if room = 0 then (.ready [], s) else poll room (settle s)

/-- The source once more has arrived: an open end, which is a silence, goes on with `more`. -/
def extend : Source → (more : Source) → Source
  | [], more => more
  | [.silence], more => more
  | a :: rest, more => a :: extend rest more

@[simp] theorem unread_settle (s : Source) : unread (settle s) = unread s := by
  fun_induction settle s <;> simp_all [unread]

theorem poll_unread (room : Nat) (s : Source) :
    (poll room s).1.octets ++ unread (poll room s).2 = unread s := by
  fun_induction poll room s <;> simp_all [unread, Polled.octets, ← List.append_assoc]

theorem read_unread (room : Nat) (s : Source) :
    (read room s).1.octets ++ unread (read room s).2 = unread s := by
  unfold read
  split
  · rfl
  · rw [poll_unread, unread_settle]

end Source

end Sluice
