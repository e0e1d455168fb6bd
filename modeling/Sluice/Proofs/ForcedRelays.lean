import Sluice.Proofs.RelayChanges

/-
  A relay that is cut short. At whatever moment that is, both pumps come to rest with their buffers
  given back (`rests_force`, `run_lent`), and nothing moves any more (`run_concluded`). The verdict
  is the first failure that was heard before, if there was one (`failure_force`). What each sink has
  got by then is a front of what its source yields, as at every other moment (`run_cut_short`).
-/

namespace Sluice

/-- Does a pump neither read nor write nor close any more? -/
def PumpPhase.rests : PumpPhase → Bool
  | .report _ => true
  | .joined => true
  | .dropped => true
  | _ => false

theorem PumpPhase.lent_of_rests {phase : PumpPhase} (h : phase.rests = true) : phase.lent = 0 := by
  cases phase <;> first | rfl | cases h

namespace Relay

variable {pool pool' : Pool} {r r' : Relay} {d : Direction}

theorem advance_of_rests (h : (r.pump d).phase.rests = true) (pool : Pool) :
    r.advance d pool = none := by
  unfold advance Pump.copy
  cases phase : (r.pump d).phase <;> first | rfl | (rw [phase] at h; cases h)

/-! ## Coming to rest -/

theorem failure_drop (d : Direction) (pool : Pool) (r : Relay) :
    (r.drop d pool).2.failure = r.failure := by
  unfold drop
  dsimp only
  split <;> simp [setPhase, note, closeTarget, closeSource]

theorem failure_force (pool : Pool) (r : Relay) :
    (r.force pool).2.failure = some (r.failure.getD forceClosed) := by
  unfold force
  dsimp only
  rw [failure_drop, failure_drop]
  rfl

theorem rests_drop (d : Direction) (pool : Pool) (r : Relay) :
    ((r.drop d pool).2.pump d).phase.rests = true := by
  unfold drop
  dsimp only
  split
  · rw [pump_setPhase]
    rfl
  · rw [pump_note, pump_setPhase]
    rfl
  · rw [pump_note, pump_setPhase]
    rfl
  · rw [closeSource, pump_note, pump_halfClose]
    rfl
  · rw [closeSource, pump_note, pump_halfClose]
    rfl
  · cases phase : (r.pump d).phase <;> simp_all [PumpPhase.rests]

theorem pump_drop_ne {d d' : Direction} (h : d' ≠ d) (pool : Pool) (r : Relay) :
    (r.drop d pool).2.pump d' = r.pump d' := by
  unfold drop
  dsimp only
  split <;>
    simp [setPhase, closeSource, closeTarget, pump_setPump_ne _ _ h, pump_halfClose_ne _ _ _ _ h]

theorem rests_force (d : Direction) (pool : Pool) (r : Relay) :
    ((r.force pool).2.pump d).phase.rests = true := by
  have up := rests_drop .up pool (r.note [.forced])
  generalize dropped : (r.note [.forced]).drop .up pool = s at up
  have forced : ∀ d, (r.force pool).2.pump d = (s.2.drop .down s.1).2.pump d := by
    intro d
    rw [← dropped]
    cases d <;> rfl
  rw [forced]
  cases d with
  | up =>
    rw [pump_drop_ne (by decide)]
    exact up
  | down => exact rests_drop .down s.1 s.2

theorem lent_force (pool : Pool) (r : Relay) : (r.force pool).2.lent = 0 := by
  rw [lent, PumpPhase.lent_of_rests (rests_force .up pool r),
    PumpPhase.lent_of_rests (rests_force .down pool r)]

/-! ## The moment of the cut -/

theorem step_concluded (h : r.concluded = true) (m : Move) (pool : Pool) :
    r.step m pool = none :=
  if_pos h

/-- Nothing moves in a relay that is over. -/
theorem run_concluded (h : r.concluded = true) {moves : List Move} (more : moves ≠ [])
    (pool : Pool) : r.run pool moves = none := by
  cases moves with
  | nil => exact absurd rfl more
  | cons m moves =>
    rw [run, step_concluded h]
    rfl

theorem step_force (running : r.concluded = false) (pool : Pool) :
    r.step .force pool = some (r.force pool) := by
  rw [step, running]
  rfl

theorem outcome_of_failure {e : IoError} (done : r.concluded = true) (failed : r.failure = some e) :
    r.outcome = .failed e := by
  rw [outcome, done, failed]

/-- A relay that still runs has not been cut short. -/
theorem unforced_of_running {before : List Move} (run : r.run pool before = some (pool', r'))
    (running : r'.concluded = false) : Move.force ∉ before := by
  intro forced
  obtain ⟨a, b, rfl⟩ := List.append_of_mem forced
  rw [run_append] at run
  obtain ⟨⟨pool₁, r₁⟩, -, run⟩ := Option.bind_eq_some_iff.1 run
  obtain ⟨⟨pool₂, r₂⟩, step, run⟩ := Option.bind_eq_some_iff.1 run
  have done : r₂.concluded = true := by
    by_cases ended : r₁.concluded = true
    · rw [step_concluded ended] at step
      cases step
    · rw [step_force (Bool.eq_false_iff.2 ended)] at step
      obtain rfl : (r₁.force pool₁).2 = r₂ := congrArg Prod.snd (Option.some.inj step)
      rfl
  have run : r₂.run pool₂ b = some (pool', r') := run
  by_cases more : b = []
  · subst more
    obtain ⟨-, rfl⟩ := Prod.mk.inj (Option.some.inj run)
    rw [running] at done
    cases done
  · rw [run_concluded done more] at run
    cases run

/-- A relay that starts afresh and runs can be cut short at every moment, and the cut is its last
move: neither pump reads, writes or closes any more. It has then failed, with the first failure
that a joined direction had finished with, or else as cut short. The pool has lent what it had lent
before. Each sink has taken a front of what the source behind it yields, and less than a buffer of
that is not counted. -/
theorem run_cut_short {held : Octets} {client remote : Transport} {before : List Move}
    {pool₁ : Pool} {r₁ : Relay}
    (run : (start held client remote).run pool before = some (pool₁, r₁))
    (running : r₁.concluded = false) :
    let r₀ := start held client remote
    ∃ pool' r', r₀.run pool (before ++ [.force]) = some (pool', r') ∧
      ((∀ d ∈ joins before, r₁.finishes d = [((r₁.pump d).copied, (r₀.pump d).result)]) ∧
        r'.outcome = .failed (((joins before).findSome? fun d => (r₀.pump d).result).getD
          ⟨.connectionAborted, "relay force-closed"⟩)) ∧
      ((∀ d pool, r'.advance d pool = none) ∧ ∀ moves, moves ≠ [] → r'.run pool' moves = none) ∧
      pool'.inUse = pool.inUse ∧
      ∀ d, ∃ written, (r'.pump d).sink.accepted = (r₀.pump d).sink.accepted ++ written ∧
        written <+: (r₀.pump d).source.yield ∧
        (r'.pump d).copied ≤ written.length ∧ written.length < (r'.pump d).copied + 65536 := by
  intro r₀
  have unforced := unforced_of_running run running
  have heard := run_heard (fresh_start held client remote) unforced
    (heard_start held client remote) run
  have cut : r₀.run pool (before ++ [.force]) = some (r₁.force pool₁) := by
    rw [run_append, run, Option.bind_some, Relay.run, step_force running]
    rfl
  have done : (r₁.force pool₁).2.concluded = true := rfl
  have failure := failure_force pool₁ r₁
  have rests := fun d => rests_force d pool₁ r₁
  have lent := lent_force pool₁ r₁
  generalize r₁.force pool₁ = s at cut done failure rests lent
  obtain ⟨pool', r'⟩ := s
  refine ⟨pool', r', cut, ⟨fun d joined => ?_, ?_⟩, ⟨fun d => advance_of_rests (rests d),
    fun moves more => run_concluded done more pool'⟩, ?_, fun d => ?_⟩
  · have finishes := heard.finishes d
    rwa [(heard.isJoined d).1 joined] at finishes
  · refine outcome_of_failure done ?_
    rw [failure, heard.failure]
    rfl
  · have inUse := run_lent rfl cut
    rwa [lent, Nat.add_zero] at inUse
  · have along := run_along (fresh_start held client remote) (along_start held client remote) cut d
    obtain ⟨taken, took, front, le, lt⟩ :=
      Pump.along_bounds (fresh_start held client remote d) along
    exact ⟨taken, took.accepted, front, le, lt⟩

/-- A relay is cut short in the middle of a chunk, after the far side's stream has failed. -/
theorem run_cut_short_midway :
    let reset : IoError := ⟨.connectionReset, "reset by peer"⟩
    let client : Transport := { source := [.data [2, 3]] }
    let remote : Transport := { source := [.failure reset], sink := { perWrite := some 1 } }
    let before := [.advance .down, .advance .down, .advance .down, .advance .down, .join .down,
      .advance .up, .advance .up, .advance .up, .advance .up, .advance .up]
    ∃ pool r, (start [1] client remote).run {} (before ++ [.force]) = some (pool, r) ∧
      r.outcome = .failed reset ∧ pool.inUse = 0 ∧ ∃ written, r.up.sink.accepted = written ∧
        written <+: [1, 2, 3] ∧ r.up.copied ≤ written.length := by
  intro reset client remote before
  have running : ((start [1] client remote).run {} before).map (·.2.concluded) = some false := by
    decide +kernel
  obtain ⟨⟨pool₁, r₁⟩, run, running⟩ := Option.map_eq_some_iff.1 running
  obtain ⟨pool, r, cut, ⟨-, outcome⟩, -, inUse, got⟩ := run_cut_short run running
  obtain ⟨written, accepted, front, counted, -⟩ := got .up
  have heard : (joins before).findSome? (fun d => ((start [1] client remote).pump d).result) =
      some reset := by decide
  rw [heard] at outcome
  exact ⟨pool, r, cut, outcome, inUse, written, accepted, front, counted⟩

end Relay

end Sluice
