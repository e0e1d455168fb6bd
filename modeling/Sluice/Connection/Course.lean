import Sluice.Connection.Basic

/-
  The course that a connection takes when it is left to itself: it makes whatever move it can, and
  what it would wait for for ever is ended by a time limit or a force-close. The course ends,
  because a relay cannot run for ever and no stage comes twice.
-/

namespace Sluice

/-- Something that a connection waits for. -/
inductive Wait where
  | sniffing
  | dialing
  | relaying
  deriving DecidableEq, Repr

/-- What ends a wait. -/
inductive Interruption where
  | timeout
  | force
  deriving DecidableEq, Repr

/-- All that a connection meets with. -/
structure Circumstances where
  timeouts : Timeouts := {}
  /-- Where the connection was headed. -/
  base : Except IoError Destination
  /-- What the dialer answers. -/
  dial : Destination → Outcome (List String) Transport
  /-- What ends a wait that would otherwise go on; nothing if absent. -/
  interruption : Wait → Option Interruption := fun _ => none

namespace Connection

/-- The move that ends a wait. -/
def interrupted (timeout : Option Move) : Option Interruption → List Move
  | some .timeout => timeout.toList
  | some .force => [.force]
  | none => []

/-- The moves to try, in order. -/
def candidates (w : Circumstances) (c : Connection) : List Move :=
  match c.stage with
  | .resolve => [.resolve w.base]
  | .sniff _ => .sniff :: interrupted (some .sniffTimeout) (w.interruption .sniffing)
  | .dial destination =>
    match w.dial destination with
    | .done remote => [.dialed (.ok remote)]
    | .failed chain => [.dialed (.error chain)]
    | .pending => interrupted (some .dialTimeout) (w.interruption .dialing)
  | .relay _ =>
    Relay.ownMoves.map .relay ++ interrupted none (w.interruption .relaying)
  | .ended _ _ => []

/-- The first of the moves to try that can be made, made. -/
def next? (w : Circumstances) (pool : Pool) (c : Connection) : Option (Pool × Connection) :=
  (candidates w c).findSome? fun m => c.step w.timeouts m pool

/-! ## The course ends -/

/-- How many stages are still to come. -/
def stageRank : ConnectionStage → Nat
  | .resolve => 4
  | .sniff _ => 3
  | .dial _ => 2
  | .relay _ => 1
  | .ended _ _ => 0

/-- How much the stage itself can still do. -/
def stageWeight : ConnectionStage → Nat
  | .relay r => r.weight
  | _ => 0

/-- Has the connection come further? -/
def Before (c' c : Connection) : Prop :=
  Prod.Lex (· < ·) (· < ·) (stageRank c'.stage, stageWeight c'.stage)
    (stageRank c.stage, stageWeight c.stage)

theorem before_of_rank {c' c : Connection} (h : stageRank c'.stage < stageRank c.stage) :
    Before c' c :=
  Prod.Lex.left _ _ h

theorem before_sniffed {c c' : Connection} {base : Destination} (stage : c.stage = .sniff base)
    (h : c.sniffed base = some c') : Before c' c := by
  apply before_of_rank
  unfold sniffed at h
  split at h
  · simp at h
  all_goals
    obtain rfl := Option.some.inj h
    simp [stop, finish, sighted, stage, stageRank]

theorem before_relay {t : Timeouts} {pool pool' : Pool} {c c' : Connection} {m : Relay.Move}
    (own : m ∈ Relay.ownMoves) (h : c.step t (.relay m) pool = some (pool', c')) :
    Before c' c := by
  unfold step at h
  split at h <;> simp_all only [reduceCtorEq, Move.relay.injEq, Option.map_eq_some_iff]
  next r _ stage =>
    obtain ⟨⟨_, r'⟩, h, e⟩ := h
    have := Relay.weight_step own h
    simp only [Prod.mk.injEq] at e
    rw [← e.2]
    unfold relayed Before
    split <;> rw [stage]
    · exact Prod.Lex.left _ _ (by simp [finish, stageRank])
    · exact Prod.Lex.right _ this

theorem before_force {pool pool' : Pool} {c c' : Connection}
    (h : c.force pool = some (pool', c')) : Before c' c := by
  unfold force at h
  split at h
  · next stage =>
    simp only [Option.some.injEq, Prod.mk.injEq] at h
    exact before_of_rank (by simp [← h.2, stop, finish, stage, stageRank])
  · next stage =>
    simp only [Option.some.injEq, Prod.mk.injEq] at h
    exact before_of_rank (by simp [← h.2, stop, finish, stage, stageRank])
  · next r stage =>
    simp only [Option.some.injEq, Prod.mk.injEq] at h
    refine before_of_rank ?_
    rw [← h.2, stage]
    simp [relayed, Relay.force, finish, stageRank]
  · simp at h

theorem before_step {t : Timeouts} {m : Move} {pool pool' : Pool} {c c' : Connection}
    (own : ∀ r, m = .relay r → r ∈ Relay.ownMoves)
    (h : c.step t m pool = some (pool', c')) : Before c' c := by
  cases m with
  | relay m => exact before_relay (own m rfl) h
  | force => exact before_force (by simpa [step] using h)
  | sniff =>
    unfold step at h
    split at h <;> simp_all
    next stage => exact before_sniffed stage h.1
  | resolve base =>
    unfold step at h
    split at h <;> simp_all
    refine before_of_rank ?_
    rw [← h.2]
    unfold resolved
    split <;> simp_all [stop, finish, stageRank]
  | dialed result =>
    unfold step at h
    split at h <;> simp_all
    refine before_of_rank ?_
    rw [← h.2]
    unfold dialed
    split <;> simp_all [stop, finish, stageRank]
  | sniffTimeout =>
    unfold step at h
    split at h <;> simp_all
    exact before_of_rank (by simp_all [← h.2, stop, finish, stageRank])
  | dialTimeout =>
    unfold step at h
    split at h <;> simp_all
    exact before_of_rank (by simp_all [← h.2, stop, finish, stageRank])

theorem own_of_candidate {w : Circumstances} {c : Connection} {m : Move} {r : Relay.Move}
    (h : m ∈ candidates w c) (e : m = .relay r) : r ∈ Relay.ownMoves := by
  subst e
  unfold candidates interrupted at h
  split at h
  all_goals (try split at h) <;> (try split at h) <;> simp_all

theorem before_next {w : Circumstances} {pool pool' : Pool} {c c' : Connection}
    (h : c.next? w pool = some (pool', c')) : Before c' c := by
  obtain ⟨m, candidate, h⟩ := List.exists_of_findSome?_eq_some h
  exact before_step (fun _ => own_of_candidate candidate) h

/-! ## The course -/

/-- Goes on until nothing can move. -/
def settle (w : Circumstances) (pool : Pool) (c : Connection) : Pool × Connection :=
  match h : c.next? w pool with
  | none => (pool, c)
  | some (pool', c') =>
    have : Before c' c := before_next h
    settle w pool' c'
termination_by (stageRank c.stage, stageWeight c.stage)
decreasing_by exact this

end Connection

end Sluice
