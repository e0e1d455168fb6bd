import Sluice.Connection.Basic
import Sluice.Proofs.Relaying
import Sluice.Proofs.Sniffing

/-
  The way of a connection that nobody cuts short. Each stage has one way on and one or two ways out
  (`step_resolve`, `step_sniff`, `step_dial`, `step_relay`), so a run is one of the nine of
  `Passage`. The relay at the end of it gets the stream that the sniffing stages left, which is the
  client's stream from its first octet.
-/

namespace Sluice.Connection

open Sluice.Sniff (Sighting sniff)

variable {t : Timeouts} {pool pool' : Pool} {c c' : Connection} {m : Move} {moves : List Move}

/-! ## One step of each stage -/

theorem step_resolve (stage : c.stage = .resolve) (unforced : m ≠ .force)
    (h : c.step t m pool = some (pool', c')) :
    ∃ base, m = .resolve base ∧ pool' = pool ∧ c' = c.resolved base := by
  unfold step at h
  split at h <;> simp_all

theorem step_sniff {base : Destination} (stage : c.stage = .sniff base) (unforced : m ≠ .force)
    (h : c.step t m pool = some (pool', c')) :
    pool' = pool ∧ (m = .sniffTimeout ∧ c' = c.stop (.sniff (.timeout t.sniff)) ∨
      m = .sniff ∧ c.sniffed base = some c') := by
  unfold step at h
  split at h <;> simp_all

theorem step_dial {d : Destination} (stage : c.stage = .dial d) (unforced : m ≠ .force)
    (h : c.step t m pool = some (pool', c')) :
    pool' = pool ∧ (m = .dialTimeout ∧ c' = c.stop (.dial (dialTimedOut d t.dial)) ∨
      ∃ result, m = .dialed result ∧ c' = c.dialed result) := by
  unfold step at h
  split at h <;> simp_all

theorem step_relay {r : Relay} (stage : c.stage = .relay r) (unforced : m ≠ .force)
    (h : c.step t m pool = some (pool', c')) :
    ∃ move r', m = .relay move ∧ move ≠ .force ∧ r.step move pool = some (pool', r') ∧
      c' = c.relayed r' := by
  unfold step at h
  split at h
  case h_7 move r₁ possible running =>
    obtain rfl := ConnectionStage.relay.inj (stage.symm.trans running)
    obtain ⟨⟨pool₁, r'⟩, step, e⟩ := Option.map_eq_some_iff.1 h
    obtain ⟨rfl, rfl⟩ := Prod.mk.inj e
    exact ⟨move, r', rfl, possible, step, rfl⟩
  all_goals simp_all

theorem step_ended {how : ConnectionEnd} {r : Option Relay} (stage : c.stage = .ended how r) :
    c.step t m pool = none := by
  unfold step
  split <;> simp_all [force]

/-! ## One run through all of them -/

theorem run_ended {how : ConnectionEnd} {r : Option Relay} (stage : c.stage = .ended how r)
    (run : c.run t pool moves = some (pool', c')) : moves = [] ∧ pool' = pool ∧ c' = c := by
  cases moves with
  | nil =>
    obtain ⟨rfl, rfl⟩ := Prod.mk.inj (Option.some.inj run)
    exact ⟨rfl, rfl, rfl⟩
  | cons m moves =>
    obtain ⟨_, step, -⟩ := Option.bind_eq_some_iff.1 run
    rw [step_ended stage] at step
    simp at step

theorem run_relay {r : Relay} (stage : c.stage = .relay r) (running : r.concluded = false)
    (unforced : Move.force ∉ moves) (run : c.run t pool moves = some (pool', c')) :
    ∃ schedule r', moves = schedule.map .relay ∧ Relay.Move.force ∉ schedule ∧
      r.run pool schedule = some (pool', r') ∧ c' = c.relayed r' := by
  induction moves generalizing pool c r with
  | nil =>
    obtain ⟨rfl, rfl⟩ := Prod.mk.inj (Option.some.inj run)
    refine ⟨[], r, rfl, List.not_mem_nil, rfl, ?_⟩
    rw [relayed, running, ← stage]
    rfl
  | cons m moves ih =>
    obtain ⟨⟨pool₁, c₁⟩, step, run⟩ := Option.bind_eq_some_iff.1 run
    obtain ⟨unforced, rest⟩ := not_or.1 (fun e => unforced (List.mem_cons.2 e))
    obtain ⟨move, r₁, rfl, ne, moved, rfl⟩ := step_relay stage (Ne.symm unforced) step
    cases ended : r₁.concluded with
    | true =>
      have stage₁ : (c.relayed r₁).stage = .ended (.relayed r₁.up.copied r₁.down.copied r₁.failure)
          (some r₁) := by
        rw [relayed, ended]
        rfl
      obtain ⟨rfl, rfl, rfl⟩ := run_ended stage₁ run
      refine ⟨[move], r₁, rfl, fun h => ne (List.mem_singleton.1 h).symm, ?_, rfl⟩
      rw [Relay.run, moved]
      rfl
    | false =>
      have same : c.relayed r₁ = { c with stage := .relay r₁ } := by
        rw [relayed, ended]
        rfl
      rw [same] at run
      obtain ⟨schedule, r', rfl, unforced, relay, rfl⟩ := ih rfl ended rest run
      refine ⟨move :: schedule, r', rfl, ?_, ?_, rfl⟩
      · exact fun h => (List.mem_cons.1 h).elim (fun e => ne e.symm) unforced
      · rw [Relay.run, moved]
        exact relay

/-- The client's stream before anybody has looked at it. -/
def opening (client : Transport) : Replay :=
  { source := client.source }

/-- The connection when it is known where it was headed. -/
def headed (client : Transport) (base : Destination) : Connection :=
  resolved (.ok base) { client }

/-- The connection when the client turned out to carry this, and left this to read. -/
def asked (client : Transport) (base : Destination) (s : Sighting) (r : Replay) : Connection :=
  ((headed client base).setReplay r).sighted base s

/-- The runs of a connection that nobody cuts short. -/
inductive Passage (t : Timeouts) (client : Transport) (pool : Pool) :
    List Move → Pool → Connection → Prop where
  | arrived : Passage t client pool [] pool { client }
  | unresolved {e} : Passage t client pool [.resolve (.error e)] pool
      (resolved (.error e) { client })
  | headed {base} : Passage t client pool [.resolve (.ok base)] pool (headed client base)
  | sniffTimeout {base} : Passage t client pool [.resolve (.ok base), .sniffTimeout] pool
      ((Connection.headed client base).stop (.sniff (.timeout t.sniff)))
  | unsniffed {base e r} : sniff (opening client) = (.failed e, r) →
      Passage t client pool [.resolve (.ok base), .sniff] pool
        (((Connection.headed client base).setReplay r).stop (.sniff e))
  | asked {base s r} : sniff (opening client) = (.done s, r) →
      Passage t client pool [.resolve (.ok base), .sniff] pool (asked client base s r)
  | dialTimeout {base s r} : sniff (opening client) = (.done s, r) →
      Passage t client pool [.resolve (.ok base), .sniff, .dialTimeout] pool
        ((Connection.asked client base s r).stop
          (.dial (dialTimedOut (base.withHostname s.hostname) t.dial)))
  | undialed {base s r chain} : sniff (opening client) = (.done s, r) →
      Passage t client pool [.resolve (.ok base), .sniff, .dialed (.error chain)] pool
        ((Connection.asked client base s r).dialed (.error chain))
  | relayed {base s r remote schedule pool' relay} : sniff (opening client) = (.done s, r) →
      Relay.Move.force ∉ schedule →
      (Relay.start r.held { client with source := r.source } remote).run pool schedule =
        some (pool', relay) →
      Passage t client pool
        (.resolve (.ok base) :: .sniff :: .dialed (.ok remote) :: schedule.map .relay) pool'
        (((Connection.asked client base s r).dialed (.ok remote)).relayed relay)

variable {client : Transport}

theorem passage_dial {base : Destination} {s : Sighting} {r : Replay}
    (seen : sniff (opening client) = (.done s, r)) (unforced : Move.force ∉ moves)
    (run : (asked client base s r).run t pool moves = some (pool', c)) :
    Passage t client pool (.resolve (.ok base) :: .sniff :: moves) pool' c := by
  cases moves with
  | nil =>
    obtain ⟨rfl, rfl⟩ := Prod.mk.inj (Option.some.inj run)
    exact .asked seen
  | cons m moves =>
    obtain ⟨⟨pool₁, c₁⟩, step, run⟩ := Option.bind_eq_some_iff.1 run
    obtain ⟨unforced, rest⟩ := not_or.1 (fun e => unforced (List.mem_cons.2 e))
    obtain ⟨rfl, ⟨rfl, rfl⟩ | ⟨result, rfl, rfl⟩⟩ := step_dial rfl (Ne.symm unforced) step
    · obtain ⟨rfl, rfl, rfl⟩ := run_ended rfl run
      exact .dialTimeout seen
    · cases result with
      | error chain =>
        obtain ⟨rfl, rfl, rfl⟩ := run_ended rfl run
        exact .undialed seen
      | ok remote =>
        obtain ⟨schedule, relay, rfl, unforced, relayed, rfl⟩ := run_relay rfl rfl rest run
        exact .relayed seen unforced relayed

theorem passage_sniff {base : Destination} (unforced : Move.force ∉ moves)
    (run : (headed client base).run t pool moves = some (pool', c)) :
    Passage t client pool (.resolve (.ok base) :: moves) pool' c := by
  cases moves with
  | nil =>
    obtain ⟨rfl, rfl⟩ := Prod.mk.inj (Option.some.inj run)
    exact .headed
  | cons m moves =>
    obtain ⟨⟨pool₁, c₁⟩, step, run⟩ := Option.bind_eq_some_iff.1 run
    obtain ⟨unforced, rest⟩ := not_or.1 (fun e => unforced (List.mem_cons.2 e))
    obtain ⟨rfl, ⟨rfl, rfl⟩ | ⟨rfl, sniffed⟩⟩ := step_sniff rfl (Ne.symm unforced) step
    · obtain ⟨rfl, rfl, rfl⟩ := run_ended rfl run
      exact .sniffTimeout
    · have same : (headed client base).replay = opening client := rfl
      rw [Connection.sniffed, same] at sniffed
      split at sniffed
      · simp at sniffed
      · next seen =>
        obtain rfl := Option.some.inj sniffed
        obtain ⟨rfl, rfl, rfl⟩ := run_ended rfl run
        exact .unsniffed seen
      · next seen =>
        obtain rfl := Option.some.inj sniffed
        exact passage_dial seen rest run

theorem passage_of_run (unforced : Move.force ∉ moves)
    (run : ({ client } : Connection).run t pool moves = some (pool', c)) :
    Passage t client pool moves pool' c := by
  cases moves with
  | nil =>
    obtain ⟨rfl, rfl⟩ := Prod.mk.inj (Option.some.inj run)
    exact .arrived
  | cons m moves =>
    obtain ⟨⟨pool₁, c₁⟩, step, run⟩ := Option.bind_eq_some_iff.1 run
    obtain ⟨unforced, rest⟩ := not_or.1 (fun e => unforced (List.mem_cons.2 e))
    obtain ⟨base, rfl, rfl, rfl⟩ := step_resolve rfl (Ne.symm unforced) step
    cases base with
    | error e =>
      obtain ⟨rfl, rfl, rfl⟩ := run_ended rfl run
      exact .unresolved
    | ok base => exact passage_sniff rest run

/-! ## What reaches whom -/

/-- Looking at the client's stream takes nothing from it. -/
theorem unread_sniffed {outcome : Outcome SniffError Sighting} {r : Replay}
    (seen : sniff (opening client) = (outcome, r)) : r.unread = client.source.unread := by
  have keeps := Sniff.sniff_keeps (opening client)
  rw [seen] at keeps
  exact keeps

/-- How far a relay has come whose octets went from these sources to these sinks. -/
structure Carried (up down : Octets) (client remote : Transport) (r : Relay) : Prop where
  toRemote : ∃ front, r.up.sink.accepted = remote.sink.accepted ++ front ∧ front <+: up
  toClient : ∃ front, r.down.sink.accepted = client.sink.accepted ++ front ∧ front <+: down
  complete : r.outcome = .done () →
    r.up.sink.accepted = remote.sink.accepted ++ up ∧
      r.down.sink.accepted = client.sink.accepted ++ down

theorem carried_run {held : Octets} {remote : Transport} {schedule : List Relay.Move} {r : Relay}
    (unforced : Relay.Move.force ∉ schedule)
    (run : (Relay.start held client remote).run pool schedule = some (pool', r)) :
    Carried (held ++ client.source.unread) remote.source.unread client remote r := by
  have fresh := Relay.fresh_start held client remote
  have heard := Relay.run_heard fresh unforced (Relay.heard_start held client remote) run
  have front : ∀ d, ∃ front, (r.pump d).sink.accepted =
      ((Relay.start held client remote).pump d).sink.accepted ++ front ∧
      front <+: ((Relay.start held client remote).pump d).source.unread := by
    intro d
    obtain ⟨taken, took, front, -⟩ := Pump.along_bounds (fresh d) (heard.along d)
    exact ⟨taken, took.accepted, front.trans (Replay.yield_isPrefix _)⟩
  refine ⟨front .up, front .down, fun done => ?_⟩
  have ended : r.concluded = true ∧ r.failure = none := by
    unfold Relay.outcome at done
    split at done <;> simp_all
  have complete := Relay.heard_complete heard ended.1 ended.2
  exact ⟨complete .up, complete .down⟩

/-- The name that a connection is dialed by. -/
def hostOf (base : Destination) : Option String → Target
  | none => base.host
  | some name => if name = "" then base.host else Target.parse name

theorem withHostname_eq (base : Destination) (name : Option String) :
    base.withHostname name = { host := hostOf base name, port := base.port } := by
  unfold Destination.withHostname hostOf
  cases name with
  | none => rfl
  | some name => by_cases h : name = "" <;> simp [h]

theorem dials_relayed (r : Relay) (c : Connection) : (c.relayed r).dials = c.dials := by
  unfold relayed
  split <;> rfl

theorem relay?_relayed (r : Relay) (c : Connection) : (c.relayed r).relay? = some r := by
  unfold relayed
  split <;> rfl

/-- A connection ends well when its relay does. -/
theorem stage_relayed (r : Relay) (c : Connection) :
    (c.relayed r).stage = .ended (.relayed r.up.copied r.down.copied none) (some r) ↔
      r.outcome = .done () := by
  unfold relayed Relay.outcome
  cases r.concluded with
  | false => simp
  | true => cases failure : r.failure <;> simp [finish]

/-- A connection from its arrival on, not cut short. A lookup that fails leaves the client alone and
dials nothing. Nothing is dialed before the client has been looked at, and nothing if that comes to
a failure or takes too long; otherwise one destination is dialed, the name that the client asked for
at the port that it was headed for. A dial that fails or takes too long starts no relay. A relay
brings the client's octets to the far side from the first one on, and the far side's to the client;
if it ends well, all of them. -/
theorem run_pipeline (unforced : Move.force ∉ moves)
    (run : ({ client } : Connection).run t pool moves = some (pool', c)) :
    (∀ e, .resolve (.error e) ∈ moves → c.client = client ∧ c.held = [] ∧ c.dials = []) ∧
    (Move.sniff ∉ moves ∨ Move.sniffTimeout ∈ moves ∨
      (∃ e, (sniff (opening client)).1 = .failed e) → c.dials = []) ∧
    (∀ base s, .resolve (.ok base) ∈ moves → .sniff ∈ moves →
      (sniff (opening client)).1 = .done s →
      c.dials = [{ host := hostOf base s.hostname, port := base.port }]) ∧
    ((∃ chain, .dialed (.error chain) ∈ moves) ∨ .dialTimeout ∈ moves →
      c.relay? = none ∧ pool' = pool ∧ c.client.sink = client.sink) ∧
    (∀ remote, .dialed (.ok remote) ∈ moves → ∃ r, c.relay? = some r ∧
      Carried client.source.unread remote.source.unread client remote r ∧
      (c.stage = .ended (.relayed r.up.copied r.down.copied none) (some r) ↔
        r.outcome = .done ())) := by
  have passage := passage_of_run unforced run
  cases passage with
  | arrived => simp
  | unresolved => simp [resolved, stop, finish]
  | headed => simp [headed, resolved]
  | sniffTimeout => simp [headed, resolved, stop, finish]
  | unsniffed seen => simp [headed, resolved, stop, finish, setReplay, seen]
  | asked seen => simp [asked, headed, resolved, sighted, setReplay, seen, withHostname_eq]
  | dialTimeout seen =>
    simp [asked, headed, resolved, sighted, setReplay, stop, finish, seen, withHostname_eq, relay?]
  | undialed seen =>
    simp [asked, headed, resolved, sighted, setReplay, stop, finish, seen, withHostname_eq, relay?,
      dialed]
  | @relayed base s r remote schedule pool' relay seen kept ran =>
    have carried := carried_run kept ran
    have unread : r.held ++ r.source.unread = client.source.unread := unread_sniffed seen
    rw [unread] at carried
    have dials : (((asked client base s r).dialed (.ok remote)).relayed relay).dials =
        [{ host := hostOf base s.hostname, port := base.port }] := by
      rw [dials_relayed, ← withHostname_eq]
      rfl
    refine ⟨by simp, by simp [seen], ?_, by simp, ?_⟩
    · intro base' s' resolved _ seen'
      obtain rfl : base' = base := by simpa using resolved
      obtain rfl : s = s' := by simpa [seen] using seen'
      exact dials
    · intro remote' dialed
      obtain rfl : remote' = remote := by simpa using dialed
      exact ⟨relay, relay?_relayed .., ⟨carried.toRemote, carried.toClient, carried.complete⟩,
        stage_relayed ..⟩

/-- A client that asks for a host by name, and goes on after a while; the far side answers. -/
theorem run_pipeline_answered :
    let request := Octets.ofText "GET / HTTP/1.1\r\nHost: a.b\r\n\r\n"
    let client : Transport := { source := [.data request, .wait, .data [1]] }
    let remote : Transport := { source := [.data [7, 8]] }
    let schedule : List Relay.Move := List.replicate 9 (.advance .up) ++
      List.replicate 6 (.advance .down) ++ [.join .down, .join .up, .conclude]
    let base : Destination := { host := .v4 ⟨10, 0, 0, 1⟩, port := 80 }
    let moves := .resolve (.ok base) :: .sniff :: .dialed (.ok remote) :: schedule.map .relay
    ∃ pool c r, ({ client } : Connection).run {} {} moves = some (pool, c) ∧
      c.dials = [{ host := .domain "a.b", port := 80 }] ∧ c.relay? = some r ∧
      r.up.sink.accepted = request ++ [1] ∧ r.down.sink.accepted = [7, 8] := by
  intro request client remote schedule base moves
  have ended : (({ client } : Connection).run {} {} moves).map
      (fun x => x.2.relay?.map Relay.outcome) = some (some (.done ())) := by
    decide +kernel
  obtain ⟨⟨pool, c⟩, run, ended⟩ := Option.map_eq_some_iff.1 ended
  have unforced : Move.force ∉ moves := by simp [moves]
  obtain ⟨-, -, dialed, -, relayed⟩ := run_pipeline unforced run
  have name : (sniff (opening client)).1.map (·.hostname) = .done (some "a.b") := by
    decide +kernel
  obtain ⟨r, relay, carried, -⟩ := relayed remote (by simp [moves])
  rw [relay] at ended
  have complete := carried.complete (Option.some.inj ended)
  refine ⟨pool, c, r, run, ?_, relay, complete.1, complete.2⟩
  cases seen : (sniff (opening client)).1 with
  | done s =>
    rw [seen] at name
    have hostname : s.hostname = some "a.b" := Outcome.done.inj name
    rw [dialed base s (by simp [moves]) (by simp [moves]) seen, hostname]
    decide +kernel
  | failed e => simp [seen, Outcome.map] at name
  | pending => simp [seen, Outcome.map] at name

end Sluice.Connection
