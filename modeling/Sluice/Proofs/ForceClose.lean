import Sluice.Proofs.ForcedRelays
import Sluice.Proofs.SlotAccounts

/-
  Stopping a server. A force-close is sent at most once, when the drain has taken too long
  (`run_sent`). Every handler has listened since before it started, and what its connection does on
  its own leaves the signal alone; so a handler that is still at work when the signal is sent can
  see it at any later moment, whichever stage it is in (`Heeds`). A connection has been cut
  (`Cut`) just when it has seen the signal, and otherwise stands as it would have without (`Uncut`).

  A connection may also come to its own end first, since nothing here says which of two possible
  moves is made. What a receiver sees is `Receiver.wait`: a request that was made since it began to
  listen, and the end of all senders only when there is no such request.
-/

namespace Sluice

/-! ## Connections that are cut, and others -/

/-- The failure that a relay has heard of is one that a pump has finished with. -/
theorem Relay.finished_of_heard {r₀ r : Relay} {joined : List Direction} {e : IoError}
    (heard : Heard r₀ joined r) (failure : r.failure = some e) :
    ∃ d copied, .finished d copied (some e) ∈ r.history := by
  rw [heard.failure] at failure
  obtain ⟨d, reported, result⟩ := List.exists_of_findSome?_eq_some failure
  have finishes := heard.finishes d
  rw [(heard.isJoined d).1 reported, result] at finishes
  have finished : ((r.pump d).copied, some e) ∈ r.finishes d := by
    rw [finishes]
    exact List.mem_cons_self
  obtain ⟨event, happened, is⟩ := List.mem_filterMap.1 finished
  unfold RelayEvent.finish? at is
  split at is
  · next d' copied failure =>
    obtain ⟨rfl, same⟩ := Option.ite_none_right_eq_some.1 is
    obtain ⟨rfl, rfl⟩ := Prod.mk.inj (Option.some.inj same)
    exact ⟨_, _, happened⟩
  · cases is

namespace Connection

/-- How a connection stands, or ended, that nobody has cut. -/
inductive Uncut (c : Connection) : Prop where
  | resolving : c.stage = .resolve → c.dials = [] → Uncut c
  | unresolved {e} : c.stage = .ended (.stopped (.resolution e)) none → c.dials = [] → Uncut c
  | sniffing {base} : c.stage = .sniff base → c.dials = [] → Uncut c
  | unsniffed {e} : c.stage = .ended (.stopped (.sniff e)) none → c.dials = [] → Uncut c
  | dialing {d} : c.stage = .dial d → c.dials = [d] → Uncut c
  | undialed {chain d} : c.stage = .ended (.stopped (.dial chain)) none → c.dials = [d] → Uncut c
  | relaying {r d held client remote joined} : c.stage = .relay r → c.dials = [d] →
      r.concluded = false → Relay.Heard (Relay.start held client remote) joined r → Uncut c
  | relayed {r d held client remote joined} :
      c.stage = .ended (.relayed r.up.copied r.down.copied r.failure) (some r) → c.dials = [d] →
      r.concluded = true → Relay.Heard (Relay.start held client remote) joined r → Uncut c

/-- How a connection ended that was cut: while its client was looked at, with nothing dialed; while
it was dialed, without a relay; or with the relay failed, by what a pump had reported before, or
else by having been cut. -/
inductive Cut (c : Connection) : Prop where
  | sniffing : c.stage = .ended (.stopped (.aborted .sniffing)) none → c.dials = [] → Cut c
  | dialing {d} : c.stage = .ended (.stopped (.aborted .dialing)) none → c.dials = [d] → Cut c
  | relaying {r r' pool d held client remote joined} :
      Relay.Heard (Relay.start held client remote) joined r → r' = (r.force pool).2 →
      c.dials = [d] → c.stage = .ended (.relayed r'.up.copied r'.down.copied
        (some (r.failure.getD Relay.forceClosed))) (some r') → Cut c

variable {t : Timeouts} {pool pool' : Pool} {c c' : Connection} {m : Move}

theorem Cut.ends (cut : c.Cut) : c.isOver = true := by
  unfold isOver
  cases cut with
  | sniffing stage => rw [stage]
  | dialing stage => rw [stage]
  | relaying _ _ _ stage => rw [stage]

/-- The ends of a connection that has not been cut. -/
theorem Uncut.ended {how : ConnectionEnd} {relay : Option Relay} (uncut : c.Uncut)
    (ended : c.stage = .ended how relay) :
    (∃ e, how = .stopped e ∧ ∀ step, e ≠ .aborted step) ∨
    ∃ r₀ r joined, how = .relayed r.up.copied r.down.copied r.failure ∧ relay = some r ∧
      Relay.Heard r₀ joined r := by
  cases uncut with
  | resolving stage => cases stage.symm.trans ended
  | sniffing stage => cases stage.symm.trans ended
  | dialing stage => cases stage.symm.trans ended
  | relaying stage => cases stage.symm.trans ended
  | unresolved stage =>
    obtain ⟨rfl, rfl⟩ := ConnectionStage.ended.inj (stage.symm.trans ended)
    exact Or.inl ⟨_, rfl, nofun⟩
  | unsniffed stage =>
    obtain ⟨rfl, rfl⟩ := ConnectionStage.ended.inj (stage.symm.trans ended)
    exact Or.inl ⟨_, rfl, nofun⟩
  | undialed stage =>
    obtain ⟨rfl, rfl⟩ := ConnectionStage.ended.inj (stage.symm.trans ended)
    exact Or.inl ⟨_, rfl, nofun⟩
  | relayed stage _ _ heard =>
    obtain ⟨rfl, rfl⟩ := ConnectionStage.ended.inj (stage.symm.trans ended)
    exact Or.inr ⟨_, _, _, rfl, rfl, heard⟩

/-- Whoever has not been cut does not say so. -/
theorem Uncut.not_aborted (uncut : c.Uncut) (step : CutStep) (relay : Option Relay) :
    c.stage ≠ .ended (.stopped (.aborted step)) relay := by
  intro aborted
  rcases uncut.ended aborted with ⟨e, stopped, other⟩ | ⟨r₀, r, joined, relayed, -⟩
  · exact other step (ConnectionEnd.stopped.inj stopped).symm
  · cases relayed

/-- The failure of a relay that has not been cut is one that a pump has finished with. -/
theorem Uncut.failure {up down : Nat} {e : IoError} {relay : Option Relay} (uncut : c.Uncut)
    (failed : c.stage = .ended (.relayed up down (some e)) relay) :
    ∃ r d copied, relay = some r ∧ .finished d copied (some e) ∈ r.history := by
  rcases uncut.ended failed with ⟨e, stopped, -⟩ | ⟨r₀, r, joined, relayed, rfl, heard⟩
  · cases stopped
  · obtain ⟨-, -, failure⟩ := ConnectionEnd.relayed.inj relayed
    obtain ⟨d, copied, finished⟩ := Relay.finished_of_heard heard failure.symm
    exact ⟨r, d, copied, rfl, finished⟩

theorem uncut_resolved {base : Except IoError Destination} (dials : c.dials = []) :
    (c.resolved base).Uncut := by
  cases base with
  | error e => exact .unresolved rfl dials
  | ok base => exact .sniffing rfl dials

theorem uncut_sniffed {base : Destination} (dials : c.dials = [])
    (sniffed : c.sniffed base = some c') : c'.Uncut := by
  unfold Connection.sniffed at sniffed
  split at sniffed
  · cases sniffed
  · obtain rfl := Option.some.inj sniffed
    exact .unsniffed rfl dials
  · obtain rfl := Option.some.inj sniffed
    refine .dialing rfl ?_
    show c.dials ++ [_] = _
    rw [dials]
    rfl

theorem uncut_dialed {d : Destination} {result : Except (List String) Transport}
    (dials : c.dials = [d]) : (c.dialed result).Uncut := by
  cases result with
  | error chain => exact .undialed rfl dials
  | ok remote => exact .relaying rfl dials rfl (Relay.heard_start c.held c.client remote)

theorem uncut_relayed {r : Relay} {d : Destination} {held : Octets} {client remote : Transport}
    {joined : List Direction} (dials : c.dials = [d])
    (heard : Relay.Heard (Relay.start held client remote) joined r) : (c.relayed r).Uncut := by
  unfold Connection.relayed
  split
  · next concluded => exact .relayed rfl dials concluded heard
  · next running => exact .relaying rfl dials (Bool.eq_false_iff.2 running) heard

/-- What a connection does on its own does not cut it. -/
theorem uncut_step (uncut : c.Uncut) (unforced : m ≠ .force)
    (step : c.step t m pool = some (pool', c')) : c'.Uncut := by
  cases uncut with
  | resolving stage dials =>
    obtain ⟨base, -, -, rfl⟩ := step_resolve stage unforced step
    exact uncut_resolved dials
  | sniffing stage dials =>
    rcases step_sniff stage unforced step with ⟨-, ⟨-, rfl⟩ | ⟨-, sniffed⟩⟩
    · exact .unsniffed rfl dials
    · exact uncut_sniffed dials sniffed
  | dialing stage dials =>
    rcases step_dial stage unforced step with ⟨-, ⟨-, rfl⟩ | ⟨result, -, rfl⟩⟩
    · exact .undialed rfl dials
    · exact uncut_dialed dials
  | relaying stage dials running heard =>
    obtain ⟨move, r', -, kept, moved, rfl⟩ := step_relay stage unforced step
    exact uncut_relayed dials (Relay.heard_step (Relay.fresh_start _ _ _) kept heard moved)
  | unresolved stage => rw [step_ended stage] at step; cases step
  | unsniffed stage => rw [step_ended stage] at step; cases step
  | undialed stage => rw [step_ended stage] at step; cases step
  | relayed stage => rw [step_ended stage] at step; cases step

theorem step_force : c.step t .force pool = c.force pool := by
  simp [Connection.step]

theorem force_relay {r : Relay} (stage : c.stage = .relay r) :
    c.force pool = some ((r.force pool).1, c.relayed (r.force pool).2) := by
  unfold force
  rw [stage]

theorem stage_concluded {r : Relay} (concluded : r.concluded = true) :
    (c.relayed r).stage = .ended (.relayed r.up.copied r.down.copied r.failure) (some r) := by
  unfold relayed
  rw [if_pos concluded]
  rfl

/-- A force-close cuts whatever is going on. -/
theorem cut_step (uncut : c.Uncut) (step : c.step t .force pool = some (pool', c')) : c'.Cut := by
  rw [step_force] at step
  cases uncut with
  | resolving stage => simp [force, stage] at step
  | sniffing stage dials =>
    rw [force, stage] at step
    obtain ⟨-, rfl⟩ := Prod.mk.inj (Option.some.inj step)
    exact .sniffing rfl dials
  | dialing stage dials =>
    rw [force, stage] at step
    obtain ⟨-, rfl⟩ := Prod.mk.inj (Option.some.inj step)
    exact .dialing rfl dials
  | @relaying r d held client remote joined stage dials running heard =>
    rw [force_relay stage] at step
    obtain ⟨-, rfl⟩ := Prod.mk.inj (Option.some.inj step)
    have ended := stage_concluded (c := c) (r := (r.force pool).2) rfl
    rw [Relay.failure_force] at ended
    exact .relaying heard rfl ((dials_relayed _ c).trans dials) ended
  | unresolved stage => simp [force, stage] at step
  | unsniffed stage => simp [force, stage] at step
  | undialed stage => simp [force, stage] at step
  | relayed stage => simp [force, stage] at step

/-- Behind its lookup, a connection that goes on can be cut at any moment. -/
theorem force_possible (going : c.isOver = false) (resolved : c.stage ≠ .resolve) :
    (c.step t .force pool).isSome = true := by
  rw [step_force]
  unfold force
  unfold isOver at going
  cases stage : c.stage with
  | resolve => exact absurd stage resolved
  | sniff base => rfl
  | dial destination => rfl
  | relay r => rfl
  | ended how relay =>
    rw [stage] at going
    cases going

end Connection

namespace Server

/-! ## The signal -/

/-- The number of the connection that makes a move. -/
def Move.mover : Move → Option Nat
  | .connection id _ => some id
  | _ => none

theorem Move.ne_of_mover {m : Move} {id : Nat} {move : Connection.Move} (other : id ∉ m.mover) :
    m ≠ .connection id move := by
  rintro rfl
  exact other rfl

/-- A move that is not the last one was made before. -/
theorem Move.mem_of_ne {moves : List Move} {m m' : Move} (other : m ≠ m')
    (member : m' ∈ moves ++ [m]) : m' ∈ moves :=
  (List.mem_append.1 member).resolve_right fun last => other (List.mem_singleton.1 last).symm

/-- How a handler stands with the force-close: it has not seen it and its connection has not been
cut, or the other way round. -/
inductive Heeds (moves : List Move) (s : Server) (h : Handler) : Prop where
  | uncut : .connection h.id .force ∉ moves → h.connection.Uncut → h.forceClose.next = 0 →
      Heeds moves s h
  | cut : .connection h.id .force ∈ moves → h.connection.Cut → s.forceClose.sent = 1 →
      Heeds moves s h

/-- What is known about the force-close along a run. -/
structure Signalled (moves : List Move) (s : Server) : Prop where
  heeds : ∀ h ∈ s.handlers, Heeds moves s h
  known : ∀ id m, .connection id m ∈ moves → id < s.nextId
  once : s.forceClose.sent ≤ 1
  unsent : s.phase = .accepting ∨ s.phase = .draining → s.forceClose.sent = 0

section

variable {moves : List Move} {s s' : Server} {m : Move}

theorem Fresh.signalled (fresh : s.Fresh) : Signalled [] s where
  heeds := by
    rw [fresh.handlers]
    simp
  known := by simp
  once := by
    rw [fresh.sent]
    exact Nat.zero_le 1
  unsent _ := fresh.sent

theorem forced_eq_none {h : Handler} {b : Broadcast} (unsent : b.sent = 0) : h.forced b = none := by
  unfold Handler.forced Receiver.wait Receiver.receive
  rw [unsent, if_pos (Nat.zero_le _)]
  cases b.isOpen <;> rfl

/-- A signal that was sent is seen by whoever has not seen it, even if nobody could send
another. -/
theorem forced_eq_some {h : Handler} {b : Broadcast} (sent : b.sent = 1)
    (unseen : h.forceClose.next = 0) : h.forced b = some { next := 1 } := by
  unfold Handler.forced Receiver.wait Receiver.receive
  rw [sent, unseen]
  rfl

/-- A handler that a move leaves alone. -/
theorem Heeds.later {h : Handler} (heeds : Heeds moves s h) (other : m ≠ .connection h.id .force)
    (kept : s.forceClose.sent = 1 → s'.forceClose.sent = 1) : Heeds (moves ++ [m]) s' h := by
  cases heeds with
  | uncut unforced uncut unseen =>
    exact .uncut (fun member => unforced (Move.mem_of_ne other member)) uncut unseen
  | cut forced cut sent => exact .cut (List.mem_append_left _ forced) cut (kept sent)

/-- Leaving makes no difference to the signal. -/
theorem Heeds.left {h : Handler} (heeds : Heeds moves s h) (status : HandlerStatus) :
    Heeds moves s { h with status } := by
  cases heeds with
  | uncut unforced uncut unseen => exact .uncut unforced uncut unseen
  | cut forced cut sent => exact .cut forced cut sent

theorem listen_other {h : Handler} {b : Broadcast} {r : Receiver} {move : Connection.Move}
    (unforced : move ≠ .force) (listened : h.listen b move = some r) : r = h.forceClose := by
  unfold Handler.listen at listened
  split at listened
  · exact absurd rfl unforced
  · exact (Option.some.inj listened).symm

/-- The handler that makes the move. -/
theorem heeds_connection {h : Handler} {move : Connection.Move} {forceClose : Receiver}
    {pool : Pool} {connection : Connection} (heeds : Heeds moves s h)
    (once : s.forceClose.sent ≤ 1) (same : s'.forceClose = s.forceClose)
    (listened : h.listen s.forceClose move = some forceClose)
    (step : h.connection.step s.timeouts move s.pool = some (pool, connection)) :
    Heeds (moves ++ [.connection h.id move]) s' { h with forceClose, connection } := by
  cases heeds with
  | cut forced cut sent =>
    rw [Connection.step_over cut.ends] at step
    cases step
  | uncut unforced uncut unseen =>
    by_cases force : move = .force
    · subst force
      have sent : s.forceClose.sent = 1 := by
        by_contra other
        have unsent : h.forced s.forceClose = none := forced_eq_none (by omega)
        rw [Handler.listen, unsent] at listened
        cases listened
      exact .cut (List.mem_append_right _ List.mem_cons_self) (Connection.cut_step uncut step)
        (same ▸ sent)
    · obtain rfl := listen_other force listened
      have other : Move.connection h.id move ≠ .connection h.id .force := by simpa using force
      exact .uncut (fun member => unforced (Move.mem_of_ne other member))
        (Connection.uncut_step uncut force step) unseen

/-- A move that concerns no handler. -/
theorem Signalled.framed (known : Signalled moves s) (other : m.mover = none)
    (handlers : s'.handlers = s.handlers) (nextId : s'.nextId = s.nextId)
    (kept : s.forceClose.sent = 1 → s'.forceClose.sent = 1) (once : s'.forceClose.sent ≤ 1)
    (unsent : s'.phase = .accepting ∨ s'.phase = .draining → s'.forceClose.sent = 0) :
    Signalled (moves ++ [m]) s' where
  heeds h member := by
    rw [handlers] at member
    exact (known.heeds h member).later (Move.ne_of_mover (by simp [other])) kept
  known id move member := by
    rw [nextId]
    exact known.known id move (Move.mem_of_ne (Move.ne_of_mover (by simp [other])) member)
  once := once
  unsent := unsent

/-- A handler makes a move that leaves the signal alone. -/
theorem Signalled.replaced {before after : List Handler} {h h' : Handler}
    (known : Signalled moves s) (numbered : s.Numbered)
    (split : s.handlers = before ++ h :: after) (split' : s'.handlers = before ++ h' :: after)
    (nextId : s'.nextId = s.nextId) (same : s'.forceClose = s.forceClose)
    (phase : s'.phase = s.phase) (own : ∀ id ∈ m.mover, id = h.id)
    (heeds : Heeds (moves ++ [m]) s' h') : Signalled (moves ++ [m]) s' where
  heeds k member := by
    rw [split'] at member
    rcases mem_replaced member with rfl | other
    · exact heeds
    · have differs := others_differ numbered.distinct split other
      have unmoved : m ≠ .connection k.id .force :=
        Move.ne_of_mover fun mover => differs (own k.id mover)
      exact (known.heeds k (mem_of_other split other)).later unmoved (same ▸ id)
  known id move member := by
    rw [nextId]
    rcases List.mem_append.1 member with before | last
    · exact known.known id move before
    · rw [own id (by rw [← List.mem_singleton.1 last]; rfl)]
      exact numbered.id_lt (by simp [split])
  once := by
    rw [same]
    exact known.once
  unsent := by
    rw [same, phase]
    exact known.unsent

theorem signalled_turn (numbered : s.Numbered) (known : Signalled moves s) (turn : Turn s m s') :
    Signalled (moves ++ [m]) s' := by
  cases turn with
  | @enter address client log phase free =>
    have unsent := known.unsent (Or.inl phase)
    -- no move was made under the new number yet
    have earlier : ∀ {id move}, .connection id move ∈ moves ++ [.arrive address client] →
        id < s.nextId :=
      fun member => known.known _ _ (Move.mem_of_ne (by simp) member)
    refine ⟨fun h member => ?_, fun _ _ member => Nat.lt_succ_of_lt (earlier member), known.once,
      known.unsent⟩
    rcases List.mem_append.1 member with old | new
    · exact (known.heeds h old).later (Move.ne_of_mover (by simp [Move.mover])) id
    · obtain rfl := List.mem_singleton.1 new
      exact .uncut (fun moved => Nat.lt_irrefl _ (earlier moved)) (.resolving rfl rfl) unsent
  | reject => exact known.framed rfl rfl rfl id known.once known.unsent
  | acceptFails => exact known.framed rfl rfl rfl id known.once known.unsent
  | @connection before h after move forceClose pool connection split listened step =>
    refine known.replaced numbered split rfl rfl rfl rfl ?_ ?_
    · rintro id ⟨⟩
      rfl
    · have heeds := known.heeds h (by simp [split])
      exact heeds_connection heeds known.once rfl listened step
  | @finish before h after split status ended =>
    have heeds := known.heeds h (by simp [split])
    refine known.replaced numbered split rfl rfl rfl rfl (by simp [Move.mover]) ?_
    exact (heeds.left _).later (Move.ne_of_mover (by simp [Move.mover])) id
  | @release before h after split status =>
    have heeds := known.heeds h (by simp [split])
    refine known.replaced numbered split rfl rfl rfl rfl (by simp [Move.mover]) ?_
    exact (heeds.left _).later (Move.ne_of_mover (by simp [Move.mover])) id
  | shutdown phase =>
    exact known.framed rfl rfl rfl id known.once fun _ => known.unsent (Or.inl phase)
  | wait => exact known.framed rfl rfl rfl id known.once known.unsent
  | stop => exact known.framed rfl rfl rfl id known.once (by simp)
  | force phase =>
    have unsent := known.unsent (Or.inr phase)
    refine known.framed rfl rfl rfl (fun _ => ?_) ?_ (by simp)
    · show s.forceClose.sent + 1 = 1
      omega
    · show s.forceClose.sent + 1 ≤ 1
      omega
  | abandon => exact known.framed rfl rfl rfl id known.once (by simp)

theorem run_signalled {s₀ : Server} (fresh : s₀.Fresh) (run : s₀.run moves = some s) :
    Signalled moves s :=
  run_induction fresh fresh.signalled (fun _ numbered known turn =>
    signalled_turn numbered known turn) run

/-! ## Sending -/

/-- A force-close is sent only by a server that has drained for too long. -/
theorem sent_turn (turn : Turn s m s') : s'.forceClose.sent = s.forceClose.sent ∨
    ∃ elapsed, m = .look elapsed ∧ s.phase = .draining ∧ s.active ≠ 0 ∧
      s.shutdownTimeout.toNanos ≤ elapsed.toNanos := by
  cases turn with
  | force phase some late => exact Or.inr ⟨_, rfl, phase, some, late⟩
  | _ => exact Or.inl rfl

theorem shutdownTimeout_turn (turn : Turn s m s') : s'.shutdownTimeout = s.shutdownTimeout := by
  cases turn <;> rfl

theorem run_shutdownTimeout {s₀ : Server} (fresh : s₀.Fresh) (run : s₀.run moves = some s) :
    s.shutdownTimeout = s₀.shutdownTimeout :=
  run_induction (P := fun _ s => s.shutdownTimeout = s₀.shutdownTimeout) fresh rfl
    (fun _ _ same turn => (shutdownTimeout_turn turn).trans same) run

/-- The look at which the force-close was sent. -/
theorem run_sent {s₀ : Server} (fresh : s₀.Fresh) (run : s₀.run moves = some s)
    (sent : s.forceClose.sent = 1) :
    ∃ before elapsed after s₁, moves = before ++ .look elapsed :: after ∧
      s₀.run before = some s₁ ∧ s₁.phase = .draining ∧ (∃ h ∈ s₁.handlers, h.counts = true) ∧
      s₀.shutdownTimeout.toNanos ≤ elapsed.toNanos := by
  refine run_induction (P := fun moves s => s.forceClose.sent = 1 →
    ∃ before elapsed after s₁, moves = before ++ .look elapsed :: after ∧
      s₀.run before = some s₁ ∧ s₁.phase = .draining ∧ (∃ h ∈ s₁.handlers, h.counts = true) ∧
      s₀.shutdownTimeout.toNanos ≤ elapsed.toNanos) fresh ?_ ?_ run sent
  · intro sent
    rw [fresh.sent] at sent
    cases sent
  · intro moves m s s' run numbered earlier turn sent
    rcases sent_turn turn with same | ⟨elapsed, rfl, phase, active, late⟩
    · obtain ⟨before, elapsed, after, s₁, rfl, here⟩ := earlier (same ▸ sent)
      exact ⟨before, elapsed, after ++ [m], s₁, by simp, here⟩
    · have counted : ∃ h ∈ s.handlers, h.counts = true := by
        rw [(run_accounted fresh run).active] at active
        exact List.countP_pos_iff.1 (Nat.pos_of_ne_zero active)
      rw [run_shutdownTimeout fresh run] at late
      exact ⟨moves, elapsed, [], s, rfl, run, phase, counted, late⟩

/-- A server that has stopped accepting takes nobody in. -/
theorem run_closed (numbered : s.Numbered) (closed : s.phase ≠ .accepting)
    (run : s.run moves = some s') : ∀ m ∈ moves, m.isArrival = false := by
  induction moves generalizing s with
  | nil => simp
  | cons m moves ih =>
    obtain ⟨s₁, step, run⟩ := Option.bind_eq_some_iff.1 run
    have turn := turn_of_step numbered step
    have here : m.isArrival = false ∧ s₁.phase ≠ .accepting := by
      cases turn with
      | enter phase => exact absurd phase closed
      | reject phase => exact absurd phase closed
      | acceptFails phase => exact absurd phase closed
      | shutdown phase => exact absurd phase closed
      | connection => exact ⟨rfl, closed⟩
      | finish => exact ⟨rfl, closed⟩
      | release => exact ⟨rfl, closed⟩
      | wait => exact ⟨rfl, closed⟩
      | stop => exact ⟨rfl, by simp⟩
      | force => exact ⟨rfl, by simp⟩
      | abandon => exact ⟨rfl, by simp⟩
    intro m' member
    rcases List.mem_cons.1 member with rfl | later
    · exact here.1
    · exact ih (numbered_turn numbered turn) here.2 run m' later

theorem run_shut {s₀ : Server} (fresh : s₀.Fresh) {before after : List Move}
    (run : s₀.run (before ++ .shutdown :: after) = some s) : ∀ m ∈ after, m.isArrival = false := by
  rw [run_append] at run
  obtain ⟨s₁, first, rest⟩ := Option.bind_eq_some_iff.1 run
  obtain ⟨s₂, step, last⟩ := Option.bind_eq_some_iff.1 rest
  have numbered := run_numbered fresh first
  have turn := turn_of_step numbered step
  refine run_closed (numbered_turn numbered turn) ?_ last
  cases turn
  simp

/-! ## Seeing it -/

theorem step_force_unsent (unsent : s.forceClose.sent = 0) (id : Nat) :
    s.step (.connection id .force) = none := by
  show s.moveConnection id .force = none
  unfold moveConnection
  cases s.handler? id with
  | none => rfl
  | some h =>
    have nothing : h.listen s.forceClose .force = none := forced_eq_none unsent
    rw [Option.bind_eq_bind, Option.bind_some, nothing]
    rfl

/-- A connection makes a move where its handler lets it. -/
theorem step_connection {h : Handler} {move : Connection.Move} {forceClose : Receiver}
    (numbered : s.Numbered) (member : h ∈ s.handlers)
    (listened : h.listen s.forceClose move = some forceClose)
    (possible : (h.connection.step s.timeouts move s.pool).isSome = true) :
    ∃ s', s.step (.connection h.id move) = some s' := by
  have found := handler?_of_mem numbered.distinct member
  obtain ⟨⟨pool, connection⟩, stepped⟩ := Option.isSome_iff_exists.1 possible
  refine ⟨Server.setHandler { h with forceClose, connection } { s with pool }, ?_⟩
  show s.moveConnection h.id move = _
  rw [moveConnection, found, Option.bind_eq_bind, Option.bind_some, listened, Option.bind_eq_bind,
    Option.bind_some, stepped]
  rfl

/-- A handler at work sees a force-close that was sent, now or later. -/
theorem forced_of_going (known : Signalled moves s) (sent : s.forceClose.sent = 1) {h : Handler}
    (member : h ∈ s.handlers) (going : h.connection.isOver = false) :
    h.forced s.forceClose = some { next := 1 } := by
  cases known.heeds h member with
  | uncut _ _ unseen => exact forced_eq_some sent unseen
  | cut _ cut _ =>
    rw [cut.ends] at going
    cases going

/-- What comes of stopping a server, for every schedule. Nobody is taken in behind the shutdown. A
force-close is sent at most once, and only when a look at the draining server finds a handler that
still counts, and the time is over. Once it was sent, every handler whose connection goes on can
still see it; behind the lookup its connection can then be cut at any moment. A connection is cut
just if it has made that move, and stands as on its own otherwise. Unless the force-close was sent,
no connection makes that move, also when nobody is left who could send it; none ends as aborted, and
no relay fails but by a failure that one of its pumps has finished with. -/
theorem run_force_closes {s₀ : Server} (fresh : s₀.Fresh) (run : s₀.run moves = some s) :
    (∀ before after, moves = before ++ .shutdown :: after → ∀ m ∈ after, m.isArrival = false) ∧
    (s.forceClose.sent ≤ 1 ∧ (s.forceClose.sent = 1 →
      ∃ before elapsed after s₁, moves = before ++ .look elapsed :: after ∧
        s₀.run before = some s₁ ∧ s₁.phase = .draining ∧ (∃ h ∈ s₁.handlers, h.counts = true) ∧
        s₀.shutdownTimeout.toNanos ≤ elapsed.toNanos)) ∧
    (s.forceClose.sent = 1 → ∀ h ∈ s.handlers, h.connection.isOver = false →
      (h.forced s.forceClose).isSome = true ∧
      (h.connection.stage = .resolve →
        ∀ base, (s.step (.connection h.id (.resolve base))).isSome = true) ∧
      (h.connection.stage ≠ .resolve → ∃ s', s.step (.connection h.id .force) = some s' ∧
        ∀ h' ∈ s'.handlers, h'.id = h.id → h'.connection.Cut)) ∧
    (∀ h ∈ s.handlers,
      (.connection h.id .force ∈ moves → s.forceClose.sent = 1 ∧ h.connection.Cut) ∧
      (.connection h.id .force ∉ moves → h.connection.Uncut)) ∧
    (s.forceClose.sent ≠ 1 → (∀ id, s.step (.connection id .force) = none) ∧
      ∀ h ∈ s.handlers,
        (∀ step relay, h.connection.stage ≠ .ended (.stopped (.aborted step)) relay) ∧
        (∀ up down e relay, h.connection.stage = .ended (.relayed up down (some e)) relay →
          ∃ r d copied, relay = some r ∧ .finished d copied (some e) ∈ r.history)) := by
  have numbered := run_numbered fresh run
  have known := run_signalled fresh run
  refine ⟨?_, ⟨known.once, run_sent fresh run⟩, ?_, fun h member => ?_, fun unsent => ?_⟩
  · rintro before after rfl
    exact run_shut fresh run
  · intro sent h member going
    have seen := forced_of_going known sent member going
    refine ⟨by rw [seen]; rfl, fun resolving base => ?_, fun resolved => ?_⟩
    · have possible : (h.connection.step s.timeouts (.resolve base) s.pool).isSome = true := by
        unfold Connection.step
        rw [resolving]
        rfl
      have listened : h.listen s.forceClose (.resolve base) = some h.forceClose := rfl
      obtain ⟨s', step⟩ := step_connection numbered member listened possible
      rw [step]
      rfl
    · have listened : h.listen s.forceClose .force = some { next := 1 } := seen
      obtain ⟨s', step⟩ := step_connection numbered member listened
        (Connection.force_possible going resolved)
      refine ⟨s', step, fun h' member' same => ?_⟩
      have run' : s₀.run (moves ++ [.connection h.id .force]) = some s' := by
        rw [run_concat, run]
        exact step
      cases (run_signalled fresh run').heeds h' member' with
      | uncut unforced => exact absurd (by simp [same]) unforced
      | cut _ cut => exact cut
  · cases known.heeds h member with
    | uncut unforced uncut => exact ⟨fun forced => absurd forced unforced, fun _ => uncut⟩
    | cut forced cut sent => exact ⟨fun _ => ⟨sent, cut⟩, fun unforced => absurd forced unforced⟩
  · have never : s.forceClose.sent = 0 := by
      have once := known.once
      omega
    refine ⟨step_force_unsent never, fun h member => ?_⟩
    cases known.heeds h member with
    | uncut _ uncut => exact ⟨uncut.not_aborted, fun _ _ _ _ failed => uncut.failure failed⟩
    | cut _ _ sent => exact absurd sent unsent

/-- A server that gives its handlers no time. One connection is cut while its client is looked at;
another, whose lookup has failed, is not. -/
theorem run_force_closes_sniffing :
    let s₀ := (ofConfig
      { server := { maxConnections := 2, shutdownTimeout := Duration.zero } }).begin
    let sender : SocketAddress := .v4 Ipv4.loopback 50000
    let base : Destination := { host := .v4 Ipv4.loopback, port := 80 }
    let moves : List Move :=
      [.arrive sender {}, .arrive sender {}, .connection 1 (.resolve (.ok base)),
        .connection 2 (.resolve (.error .earlyEof)), .shutdown, .look Duration.zero,
        .connection 1 .force, .abandon]
    ∃ s, s₀.run moves = some s ∧ s.forceClose.sent = 1 ∧
      (∀ h ∈ s.handlers, h.id = 1 → h.connection.Cut) ∧
      (∀ h ∈ s.handlers, h.id = 2 → h.connection.Uncut) := by
  intro s₀ sender base moves
  have fresh : s₀.Fresh := fresh_begin _
  have ended : (s₀.run moves).map (fun s => s.forceClose.sent) = some 1 := by decide +kernel
  obtain ⟨s, run, sent⟩ := Option.map_eq_some_iff.1 ended
  obtain ⟨-, -, -, cut, -⟩ := run_force_closes fresh run
  refine ⟨s, run, sent, fun h member first => ?_, fun h member second => ?_⟩
  · exact ((cut h member).1 (by simp [moves, first])).2
  · exact (cut h member).2 (by simp [moves, second])

end

end Server

end Sluice
