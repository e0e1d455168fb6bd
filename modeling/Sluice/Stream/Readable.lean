import Sluice.Stream.Source

/-
  Whatever octets can be read from: a source, a stream with octets put back in front, a peek.
  `unread` is the view: the octets still to come. A read neither loses an octet nor changes their
  order; reading an exact number and reading to the end follow.
-/

namespace Sluice

/-- Something to read octets from. -/
class Readable (σ : Type) where
  /-- Reads at most this many octets. -/
  read : Nat → σ → Polled × σ
  /-- The octets still to come. -/
  unread : σ → Octets
  /-- What is handed out stood in front of what is still to come. -/
  read_unread (room : Nat) (s : σ) :
    (read room s).1.octets ++ unread (read room s).2 = unread s

instance : Readable Source where
  read := Source.read
  unread := Source.unread
  read_unread := Source.read_unread

namespace Readable

variable {σ : Type} [Readable σ]

/-- Reads `need` octets more; `got` are the ones already there. The end of the stream is the failure
`eof`; what was read before a failure stays read. -/
def readExactFrom (eof : IoError) (got : Array UInt8) (need : Nat) (s : σ) : Polled × σ :=
  if need = 0 then (.ready got.toList, s)
  else
    match read need s with
    | (.ready [], s) => (.failed eof, s)
    | (.ready (b :: front), s) =>
      readExactFrom eof (got ++ (b :: front)) (need - (front.length + 1)) s
    | (.failed e, s) => (.failed e, s)
    | (.pending, s) => (.pending, s)
termination_by need

/-- Reads exactly `n` octets. -/
def readExact (eof : IoError) (n : Nat) (s : σ) : Polled × σ :=
  readExactFrom eof #[] n s

/-- How reading to the end ends. -/
inductive End where
  | eof
  | failed (error : IoError)
  | pending
  deriving DecidableEq, Repr

/-- The largest read that `drain` asks for. -/
def drainRoom : Nat := 4096

def drainFrom (got : Array UInt8) (s : σ) : (Octets × End) × σ :=
  match h : read drainRoom s with
  | (.ready [], s) => ((got.toList, .eof), s)
  | (.ready (b :: front), s') =>
    have : (unread s').length < (unread s).length := by
      have := congrArg List.length (read_unread drainRoom s)
      simp [h, Polled.octets] at this
      omega
    drainFrom (got ++ (b :: front)) s'
  | (.failed e, s) => ((got.toList, .failed e), s)
  | (.pending, s) => ((got.toList, .pending), s)
termination_by (unread s).length

/-- Reads to the end or to the first failure. -/
def drain (s : σ) : (Octets × End) × σ :=
  drainFrom #[] s

end Readable

end Sluice
