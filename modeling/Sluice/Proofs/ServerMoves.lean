import Mathlib.Data.List.Induction
import Sluice.Proofs.Passage
import Sluice.Server.Launch

/-
  What one move does to a server. Handlers are numbered in order, so a move of a handler concerns
  one place in the list and leaves the others alone (`setHandler_split`). All that a move can do is
  told once (`Turn`, `turn_of_step`); what holds along every run is then proved move by move
  (`run_induction`).
-/

namespace Sluice

theorem Connection.step_over {t : Timeouts} {m : Connection.Move} {pool : Pool} {c : Connection}
    (ended : c.isOver = true) : c.step t m pool = none := by
  unfold isOver at ended
  split at ended
  · next stage => exact step_ended stage
  · cases ended

namespace Server

/-- Nothing has happened yet, and the force-close can still be sent. -/
structure Fresh (s : Server) : Prop where
  slots : s.slots = { max := s.slots.max }
  sent : s.forceClose.sent = 0
  nextId : s.nextId = 1
  active : s.active = 0
  handlers : s.handlers = []
  phase : s.phase = .accepting

/-- The server that a configuration describes is fresh. -/
theorem fresh_begin (c : Config) : (ofConfig c).begin.Fresh :=
  ⟨rfl, rfl, rfl, rfl, rfl, rfl⟩

/-! ## Numbers -/

/-- The handlers are numbered from 1, in order, and the next number is the one behind them. -/
structure Numbered (s : Server) : Prop where
  ids : s.handlers.map (·.id) = List.range' 1 s.handlers.length
  nextId : s.nextId = s.handlers.length + 1

theorem Numbered.distinct {s : Server} (numbered : s.Numbered) :
    (s.handlers.map (·.id)).Nodup := by
  rw [numbered.ids]
  exact List.nodup_range'

theorem Fresh.numbered {s : Server} (fresh : s.Fresh) : s.Numbered where
  ids := by
    rw [fresh.handlers]
    rfl
  nextId := by
    rw [fresh.nextId, fresh.handlers]
    rfl

section

variable {s : Server} {id : Nat} {h h' : Handler} {before after : List Handler}

/-- The numbers that are taken are below the next one. -/
theorem Numbered.id_lt (numbered : s.Numbered) (member : h ∈ s.handlers) : h.id < s.nextId := by
  have number : h.id ∈ s.handlers.map (·.id) := List.mem_map_of_mem member
  rw [numbered.ids, List.mem_range'_1] at number
  rw [numbered.nextId]
  omega

theorem handler?_split (found : s.handler? id = some h) :
    h.id = id ∧ ∃ before after, s.handlers = before ++ h :: after := by
  have is := List.find?_some found
  exact ⟨by simpa using is, List.append_of_mem (List.mem_of_find?_eq_some found)⟩

theorem mem_of_other {k : Handler} (split : s.handlers = before ++ h :: after)
    (other : k ∈ before ++ after) : k ∈ s.handlers := by
  rw [split]
  rcases List.mem_append.1 other with first | last
  · exact List.mem_append_left _ first
  · exact List.mem_append_right _ (List.mem_cons_of_mem _ last)

/-- The other handlers have other numbers. -/
theorem others_differ (distinct : (s.handlers.map (·.id)).Nodup)
    (split : s.handlers = before ++ h :: after) {k : Handler} (other : k ∈ before ++ after) :
    k.id ≠ h.id := by
  rw [split, List.map_append, List.map_cons, List.nodup_append, List.nodup_cons] at distinct
  obtain ⟨-, ⟨behind, -⟩, front⟩ := distinct
  rcases List.mem_append.1 other with first | last
  · exact front k.id (List.mem_map_of_mem first) h.id List.mem_cons_self
  · exact fun same => behind (same ▸ List.mem_map_of_mem last)

theorem mem_replaced {k : Handler} (member : k ∈ before ++ h' :: after) :
    k = h' ∨ k ∈ before ++ after := by
  rcases List.mem_append.1 member with first | here
  · exact Or.inr (List.mem_append_left _ first)
  · rcases List.mem_cons.1 here with same | last
    · exact Or.inl same
    · exact Or.inr (List.mem_append_right _ last)

/-- A handler is found by its number. -/
theorem handler?_of_mem (distinct : (s.handlers.map (·.id)).Nodup) (member : h ∈ s.handlers) :
    s.handler? h.id = some h := by
  obtain ⟨before, after, split⟩ := List.append_of_mem member
  have front : before.find? (·.id == h.id) = none := by
    rw [List.find?_eq_none]
    intro k other
    simpa using others_differ distinct split (List.mem_append_left _ other)
  unfold handler?
  rw [split, List.find?_append, front, Option.none_or, List.find?_cons_of_pos]
  simp

/-- A handler is replaced where it stands. -/
theorem setHandler_split (distinct : (s.handlers.map (·.id)).Nodup)
    (split : s.handlers = before ++ h :: after) (same : h'.id = h.id) :
    s.setHandler h' = { s with handlers := before ++ h' :: after } := by
  have stays : ∀ k ∈ before ++ after, (if k.id == h'.id then h' else k) = k := by
    intro k member
    have other := others_differ distinct split member
    rw [if_neg]
    simpa [same] using other
  have first : before.map (fun k => if k.id == h'.id then h' else k) = before :=
    (List.map_congr_left fun k member => stays k (List.mem_append_left _ member)).trans
      (List.map_id' before)
  have last : after.map (fun k => if k.id == h'.id then h' else k) = after :=
    (List.map_congr_left fun k member => stays k (List.mem_append_right _ member)).trans
      (List.map_id' after)
  unfold setHandler
  rw [split, List.map_append, List.map_cons, first, last, if_pos (by simp [same])]

end

/-! ## One move -/

/-- All that a move can do to a server. -/
inductive Turn (s : Server) : Move → Server → Prop where
  | enter {address client log} : s.phase = .accepting → 0 < s.slots.free →
      Turn s (.arrive address client)
        { s with
          slots := s.slots.acquire.2
          nextId := s.nextId + 1
          active := s.active + 1
          handlers := s.handlers ++
            [{ id := s.nextId
               slot := s.slots.created
               forceClose := s.forceClose.newReceiver
               connection := { client } }]
          log }
  | reject {address client log} : s.phase = .accepting → s.slots.free = 0 →
      Turn s (.arrive address client) { s with slots := s.slots.acquire.2, log }
  | acceptFails {e log} : s.phase = .accepting → Turn s (.acceptFails e) { s with log }
  | connection {before h after m forceClose pool connection} :
      s.handlers = before ++ h :: after → h.listen s.forceClose m = some forceClose →
      h.connection.step s.timeouts m s.pool = some (pool, connection) →
      Turn s (.connection h.id m)
        { s with pool, handlers := before ++ { h with forceClose, connection } :: after }
  | finish {before h after} : s.handlers = before ++ h :: after → h.status = .counted →
      h.connection.isOver = true →
      Turn s (.finish h.id)
        { s with
          active := s.active - 1
          handlers := before ++ { h with status := .leaving } :: after }
  | release {before h after} : s.handlers = before ++ h :: after → h.status = .leaving →
      Turn s (.release h.id)
        { s with
          slots := (s.slots.release h.slot).2
          handlers := before ++ { h with status := .gone } :: after }
  | shutdown {log} : s.phase = .accepting → Turn s .shutdown { s with phase := .draining, log }
  | wait {elapsed} : s.phase ≠ .accepting → s.active ≠ 0 → Turn s (.look elapsed) s
  | stop {elapsed log} : s.phase ≠ .accepting → s.active = 0 ∨ s.phase = .forcing →
      Turn s (.look elapsed) { s with phase := .stopped, log }
  | force {elapsed log} : s.phase = .draining → s.active ≠ 0 →
      s.shutdownTimeout.toNanos ≤ elapsed.toNanos →
      Turn s (.look elapsed)
        { s with
          phase := .forcing
          forceClose := { s.forceClose with sent := s.forceClose.sent + 1 }
          log }
  | abandon : s.forceClose.isOpen = true → Turn s .abandon
      { s with phase := .stopped, forceClose := { s.forceClose with isOpen := false } }

section

variable {s s' : Server} {m : Move}

theorem turn_arrive {address : SocketAddress} {client : Transport} (phase : s.phase = .accepting) :
    Turn s (.arrive address client) (s.arrive address client) := by
  unfold arrive
  simp only [say, saySlots, note]
  cases free : s.slots.free with
  | zero =>
    have acquired : s.slots.acquire = (none, s.slots.acquire.2) := by
      rw [Slots.acquire_full free]
    rw [acquired]
    exact Turn.reject phase free
  | succ n =>
    have acquired : s.slots.acquire = (some s.slots.created, s.slots.acquire.2) := by
      rw [Slots.acquire_free free]
    rw [acquired]
    exact Turn.enter phase (free ▸ Nat.succ_pos n)

theorem turn_connection {id : Nat} {move : Connection.Move} (numbered : s.Numbered)
    (moved : s.moveConnection id move = some s') : Turn s (.connection id move) s' := by
  obtain ⟨h, found, moved⟩ := Option.bind_eq_some_iff.1 moved
  obtain ⟨forceClose, listened, moved⟩ := Option.bind_eq_some_iff.1 moved
  obtain ⟨⟨pool, connection⟩, stepped, moved⟩ := Option.bind_eq_some_iff.1 moved
  obtain rfl := Option.some.inj moved
  obtain ⟨rfl, before, after, split⟩ := handler?_split found
  have turn := Turn.connection split listened stepped
  have set : Server.setHandler { h with forceClose, connection } { s with pool } =
      { s with pool, handlers := before ++ { h with forceClose, connection } :: after } :=
    setHandler_split (s := { s with pool }) numbered.distinct split rfl
  show Turn s _ (Server.setHandler { h with forceClose, connection } { s with pool })
  rw [set]
  exact turn

theorem turn_finish {id : Nat} (numbered : s.Numbered) (moved : s.finish id = some s') :
    Turn s (.finish id) s' := by
  obtain ⟨h, found, moved⟩ := Option.bind_eq_some_iff.1 moved
  obtain ⟨⟨status, ended⟩, moved⟩ := Option.ite_none_right_eq_some.1 moved
  obtain rfl := Option.some.inj moved
  obtain ⟨rfl, before, after, split⟩ := handler?_split found
  have set : Server.setHandler { h with status := .leaving } { s with active := s.active - 1 } =
      { s with
        active := s.active - 1
        handlers := before ++ { h with status := .leaving } :: after } :=
    setHandler_split (s := { s with active := s.active - 1 }) numbered.distinct split rfl
  rw [set]
  exact Turn.finish split status ended

theorem turn_release {id : Nat} (numbered : s.Numbered) (moved : s.release id = some s') :
    Turn s (.release id) s' := by
  obtain ⟨h, found, moved⟩ := Option.bind_eq_some_iff.1 moved
  obtain ⟨status, moved⟩ := Option.ite_none_right_eq_some.1 moved
  obtain rfl := Option.some.inj moved
  obtain ⟨rfl, before, after, split⟩ := handler?_split found
  have set : Server.setHandler { h with status := .gone }
        { s with slots := (s.slots.release h.slot).2 } =
      { s with
        slots := (s.slots.release h.slot).2
        handlers := before ++ { h with status := .gone } :: after } :=
    setHandler_split (s := { s with slots := (s.slots.release h.slot).2 }) numbered.distinct split
      rfl
  rw [set]
  exact Turn.release split status

theorem turn_look {elapsed : Duration} (moved : s.look elapsed = some s') :
    Turn s (.look elapsed) s' := by
  unfold look at moved
  split at moved
  · next phase =>
    have begun : s.phase ≠ .accepting := by simp [phase]
    split at moved
    · next none =>
      obtain rfl := Option.some.inj moved
      exact Turn.stop begun (Or.inl none)
    · next some =>
      split at moved
      · next late =>
        obtain rfl := Option.some.inj moved
        exact Turn.force phase some late
      · obtain rfl := Option.some.inj moved
        exact Turn.wait begun some
  · next phase =>
    have begun : s.phase ≠ .accepting := by simp [phase]
    split at moved
    · next none =>
      obtain rfl := Option.some.inj moved
      exact Turn.stop begun (Or.inl none)
    · next some =>
      split at moved
      · obtain rfl := Option.some.inj moved
        exact Turn.stop begun (Or.inr phase)
      · obtain rfl := Option.some.inj moved
        exact Turn.wait begun some
  · cases moved

theorem turn_of_step (numbered : s.Numbered) (step : s.step m = some s') : Turn s m s' := by
  cases m with
  | arrive address client =>
    obtain ⟨phase, moved⟩ := Option.ite_none_right_eq_some.1 step
    obtain rfl := Option.some.inj moved
    exact turn_arrive phase
  | acceptFails e =>
    obtain ⟨phase, moved⟩ := Option.ite_none_right_eq_some.1 step
    obtain rfl := Option.some.inj moved
    exact Turn.acceptFails phase
  | connection id move => exact turn_connection numbered step
  | finish id => exact turn_finish numbered step
  | release id => exact turn_release numbered step
  | shutdown =>
    obtain ⟨phase, moved⟩ := Option.ite_none_right_eq_some.1 step
    obtain rfl := Option.some.inj moved
    exact Turn.shutdown phase
  | look elapsed => exact turn_look step
  | abandon =>
    obtain ⟨isOpen, moved⟩ := Option.ite_none_right_eq_some.1 step
    obtain rfl := Option.some.inj moved
    exact Turn.abandon isOpen

/-- Whoever is replaced keeps its number. -/
theorem Numbered.replaced {before after : List Handler} {h h' : Handler} (numbered : s.Numbered)
    (split : s.handlers = before ++ h :: after) (split' : s'.handlers = before ++ h' :: after)
    (same : h'.id = h.id) (nextId : s'.nextId = s.nextId) : s'.Numbered := by
  have ids : s'.handlers.map (·.id) = s.handlers.map (·.id) := by
    rw [split, split']
    simp [same]
  have length : s'.handlers.length = s.handlers.length := by
    rw [split, split']
    simp
  exact ⟨by rw [ids, length, numbered.ids], by rw [nextId, length, numbered.nextId]⟩

theorem numbered_turn (numbered : s.Numbered) (turn : Turn s m s') : s'.Numbered := by
  cases turn with
  | enter =>
    refine ⟨?_, ?_⟩
    · rw [List.map_append, numbered.ids, List.length_append, List.length_singleton,
        List.range'_concat, numbered.nextId]
      simp [Nat.add_comm]
    · rw [List.length_append, numbered.nextId]
      rfl
  | connection split => exact numbered.replaced split rfl rfl rfl
  | finish split => exact numbered.replaced split rfl rfl rfl
  | release split => exact numbered.replaced split rfl rfl rfl
  | _ => exact ⟨numbered.ids, numbered.nextId⟩

end

/-! ## Runs -/

theorem run_append (s : Server) (moves moves' : List Move) :
    s.run (moves ++ moves') = (s.run moves).bind fun s => s.run moves' := by
  induction moves generalizing s with
  | nil => rfl
  | cons m moves ih =>
    show (s.step m).bind (fun s => s.run (moves ++ moves')) =
      ((s.step m).bind fun s => s.run moves).bind fun s => s.run moves'
    rw [Option.bind_assoc]
    exact Option.bind_congr fun s' _ => ih s'

theorem run_concat (s : Server) (moves : List Move) (m : Move) :
    s.run (moves ++ [m]) = (s.run moves).bind (step m) := by
  rw [run_append]
  refine Option.bind_congr fun s' _ => ?_
  show (s'.step m).bind (fun s => some s) = s'.step m
  cases s'.step m <;> rfl

/-- What holds of a fresh server and is kept by every move that can be made holds along every
run. -/
theorem run_induction {s₀ s : Server} {P : List Move → Server → Prop} (fresh : s₀.Fresh)
    (start : P [] s₀)
    (move : ∀ {moves m s s'}, s₀.run moves = some s → s.Numbered → P moves s → Turn s m s' →
      P (moves ++ [m]) s')
    {moves : List Move} (run : s₀.run moves = some s) : P moves s := by
  have both : s.Numbered ∧ P moves s := by
    induction moves using List.reverseRecOn generalizing s with
    | nil =>
      obtain rfl := Option.some.inj run
      exact ⟨fresh.numbered, start⟩
    | append_singleton moves m ih =>
      rw [run_concat] at run
      obtain ⟨s₁, before, step⟩ := Option.bind_eq_some_iff.1 run
      obtain ⟨numbered, holds⟩ := ih before
      have turn := turn_of_step numbered step
      exact ⟨numbered_turn numbered turn, move before numbered holds turn⟩
  exact both.2

theorem run_numbered {s₀ s : Server} (fresh : s₀.Fresh) {moves : List Move}
    (run : s₀.run moves = some s) : s.Numbered :=
  run_induction (P := fun _ => Numbered) fresh fresh.numbered
    (fun _ numbered _ turn => numbered_turn numbered turn) run

end Server

end Sluice
