import Sluice.Proofs.ServerMoves

/-
  The books of the accept loop. Slots, active handlers and numbers are kept at different moments:
  before a handler starts, when its connection has ended, and when the handler is gone. Along every
  run they agree with the handlers there are (`Accounted`, `accounted_turn`), so no schedule loses a
  slot or a count (`run_accounts`).
-/

namespace Sluice

/-- Does a handler count as active? -/
def Handler.counts (h : Handler) : Bool :=
  h.status == .counted

/-- Does a handler have its slot? -/
def Handler.holds (h : Handler) : Bool :=
  h.status != .gone

/-- The slots that handlers have. -/
def Handler.slotsOf (hs : List Handler) : List Nat :=
  (hs.filter Handler.holds).map (·.slot)

/-- How many handlers count as active. -/
def Handler.activeOf (hs : List Handler) : Nat :=
  hs.countP Handler.counts

namespace Handler

variable (before after : List Handler) (h : Handler)

theorem slotsOf_split : slotsOf (before ++ h :: after) =
    slotsOf before ++ ((if h.holds then [h.slot] else []) ++ slotsOf after) := by
  unfold slotsOf
  rw [List.filter_append, List.filter_cons, List.map_append]
  split <;> simp

theorem activeOf_split : activeOf (before ++ h :: after) =
    activeOf before + ((if h.counts then 1 else 0) + activeOf after) := by
  unfold activeOf
  rw [List.countP_append, List.countP_cons, Nat.add_comm (List.countP counts after)]

theorem activeOf_le (hs : List Handler) : activeOf hs ≤ (slotsOf hs).length := by
  unfold activeOf slotsOf
  rw [List.length_map, ← List.countP_eq_length_filter]
  refine List.countP_mono_left fun h _ counts => ?_
  have status : h.status = .counted := by simpa [Handler.counts] using counts
  simp [Handler.holds, status]

end Handler

namespace Server

/-- Does a client arrive? -/
def Move.isArrival : Move → Bool
  | .arrive _ _ => true
  | _ => false

/-- The books agree with the handlers that there are, and with the moves that were made. -/
structure Accounted (limit : Nat) (moves : List Move) (s : Server) : Prop where
  max : s.slots.max = limit
  created : s.slots.created = s.handlers.length
  arrivals : s.slots.created + s.slots.rejected = moves.countP Move.isArrival
  held : s.slots.held.Perm (Handler.slotsOf s.handlers)
  permits : s.slots.free + s.slots.held.length = limit
  active : s.active = Handler.activeOf s.handlers
  ended : ∀ h ∈ s.handlers, h.counts = false → h.connection.isOver = true

section

variable {limit : Nat} {moves : List Move} {s s' : Server} {m : Move}

theorem Accounted.slots (books : Accounted limit moves s) :
    s.slots.active = (Handler.slotsOf s.handlers).length := by
  have max := books.max
  have permits := books.permits
  rw [Slots.active, ← books.held.length_eq]
  omega

theorem Accounted.bounded (books : Accounted limit moves s) : s.slots.active ≤ limit := by
  rw [← books.max]
  exact Nat.sub_le _ _

theorem Accounted.active_eq_limit (books : Accounted limit moves s) :
    s.slots.active = limit ↔ s.slots.free = 0 := by
  have max := books.max
  have permits := books.permits
  rw [Slots.active]
  omega

theorem Fresh.accounted (fresh : s.Fresh) : Accounted s.slots.max [] s where
  max := rfl
  created := by
    rw [fresh.slots, fresh.handlers]
    rfl
  arrivals := by
    rw [fresh.slots]
    rfl
  held := by
    rw [fresh.slots, fresh.handlers]
    exact List.Perm.nil
  permits := by
    rw [fresh.slots]
    rfl
  active := by
    rw [fresh.active, fresh.handlers]
    rfl
  ended := by
    rw [fresh.handlers]
    simp

theorem countP_other (other : m.isArrival = false) :
    (moves ++ [m]).countP Move.isArrival = moves.countP Move.isArrival := by
  rw [List.countP_append, List.countP_singleton, other]
  rfl

theorem countP_arrival {address : SocketAddress} {client : Transport} :
    (moves ++ [Move.arrive address client]).countP Move.isArrival =
      moves.countP Move.isArrival + 1 := by
  rw [List.countP_append]
  rfl

/-- A move that concerns neither slots nor handlers. -/
theorem Accounted.framed (books : Accounted limit moves s) (other : m.isArrival = false)
    (slots : s'.slots = s.slots) (handlers : s'.handlers = s.handlers)
    (active : s'.active = s.active) : Accounted limit (moves ++ [m]) s' where
  max := by rw [slots, books.max]
  created := by rw [slots, handlers, books.created]
  arrivals := by rw [slots, countP_other other, books.arrivals]
  held := by
    rw [slots, handlers]
    exact books.held
  permits := by
    rw [slots]
    exact books.permits
  active := by rw [active, handlers, books.active]
  ended := by
    rw [handlers]
    exact books.ended

theorem accounted_enter {address : SocketAddress} {client : Transport} {log : List LogEvent}
    (books : Accounted limit moves s) (some : 0 < s.slots.free) :
    Accounted limit (moves ++ [.arrive address client])
      { s with
        slots := s.slots.acquire.2
        nextId := s.nextId + 1
        active := s.active + 1
        handlers := s.handlers ++
          [{ id := s.nextId
             slot := s.slots.created
             forceClose := s.forceClose.newReceiver
             connection := { client } }]
        log } := by
  have permits := books.permits
  obtain ⟨n, free⟩ := Nat.exists_eq_add_of_lt some
  rw [Nat.zero_add] at free
  rw [Slots.acquire_free free]
  refine ⟨books.max, ?_, ?_, ?_, ?_, ?_, ?_⟩
  · rw [List.length_append, ← books.created]
    rfl
  · rw [countP_arrival, ← books.arrivals]
    show s.slots.created + 1 + s.slots.rejected = _
    omega
  · rw [Handler.slotsOf_split]
    exact (books.held.cons _).trans (List.perm_append_singleton _ _).symm
  · show n + (s.slots.held.length + 1) = _
    omega
  · rw [Handler.activeOf_split, ← books.active]
    rfl
  · intro h member counts
    rcases List.mem_append.1 member with old | new
    · exact books.ended h old counts
    · rw [List.mem_singleton.1 new] at counts
      cases counts

theorem accounted_reject {address : SocketAddress} {client : Transport} {log : List LogEvent}
    (books : Accounted limit moves s) (full : s.slots.free = 0) :
    Accounted limit (moves ++ [.arrive address client])
      { s with slots := s.slots.acquire.2, log } := by
  rw [Slots.acquire_full full]
  refine ⟨books.max, books.created, ?_, books.held, books.permits, books.active, books.ended⟩
  rw [countP_arrival, ← books.arrivals]
  rfl

/-- A handler is replaced, and the books with it. -/
theorem Accounted.replaced {before after : List Handler} {h h' : Handler}
    (books : Accounted limit moves s) (split : s.handlers = before ++ h :: after)
    (split' : s'.handlers = before ++ h' :: after) (other : m.isArrival = false)
    (max : s'.slots.max = s.slots.max) (created : s'.slots.created = s.slots.created)
    (rejected : s'.slots.rejected = s.slots.rejected)
    (held : s'.slots.held.Perm (Handler.slotsOf s'.handlers))
    (permits : s'.slots.free + s'.slots.held.length = s.slots.free + s.slots.held.length)
    (active : s'.active = Handler.activeOf s'.handlers)
    (ended : h'.counts = false → h'.connection.isOver = true) :
    Accounted limit (moves ++ [m]) s' where
  max := max.trans books.max
  created := by
    rw [created, books.created, split, split', List.length_append, List.length_append]
    rfl
  arrivals := by rw [created, rejected, countP_other other, books.arrivals]
  held := held
  permits := permits.trans books.permits
  active := active
  ended k member counts := by
    rw [split'] at member
    rcases mem_replaced member with rfl | other
    · exact ended counts
    · exact books.ended k (mem_of_other split other) counts

theorem accounted_connection {before after : List Handler} {h : Handler} {move : Connection.Move}
    {forceClose : Receiver} {pool : Pool} {connection : Connection}
    (books : Accounted limit moves s) (split : s.handlers = before ++ h :: after)
    (step : h.connection.step s.timeouts move s.pool = some (pool, connection)) :
    Accounted limit (moves ++ [.connection h.id move])
      { s with pool, handlers := before ++ { h with forceClose, connection } :: after } := by
  have held := books.held
  have active := books.active
  rw [split, Handler.slotsOf_split] at held
  rw [split, Handler.activeOf_split] at active
  refine books.replaced split rfl rfl rfl rfl rfl ?_ rfl ?_ fun counts => ?_
  · rw [Handler.slotsOf_split]
    exact held
  · rw [Handler.activeOf_split]
    exact active
  · have ended := books.ended h (by simp [split]) counts
    rw [Connection.step_over ended] at step
    cases step

theorem accounted_finish {before after : List Handler} {h : Handler}
    (books : Accounted limit moves s) (split : s.handlers = before ++ h :: after)
    (status : h.status = .counted) (ended : h.connection.isOver = true) :
    Accounted limit (moves ++ [.finish h.id])
      { s with
        active := s.active - 1
        handlers := before ++ { h with status := .leaving } :: after } := by
  have held := books.held
  have active := books.active
  have counted : h.counts = true ∧ h.holds = true := by simp [Handler.counts, Handler.holds, status]
  rw [split, Handler.slotsOf_split, if_pos counted.2] at held
  rw [split, Handler.activeOf_split, if_pos counted.1] at active
  refine books.replaced split rfl rfl rfl rfl rfl ?_ rfl ?_ fun _ => ended
  · rw [Handler.slotsOf_split]
    exact held
  · rw [Handler.activeOf_split]
    show s.active - 1 = Handler.activeOf before + (0 + Handler.activeOf after)
    omega

theorem accounted_release {before after : List Handler} {h : Handler}
    (books : Accounted limit moves s) (split : s.handlers = before ++ h :: after)
    (status : h.status = .leaving) :
    Accounted limit (moves ++ [.release h.id])
      { s with
        slots := (s.slots.release h.slot).2
        handlers := before ++ { h with status := .gone } :: after } := by
  have held := books.held
  have active := books.active
  have leaving : h.counts = false ∧ h.holds = true := by
    simp [Handler.counts, Handler.holds, status]
  rw [split, Handler.slotsOf_split, if_pos leaving.2] at held
  rw [split, Handler.activeOf_split, leaving.1] at active
  have first := held.trans List.perm_middle
  have has : h.slot ∈ s.slots.held := first.mem_iff.2 List.mem_cons_self
  have ended := books.ended h (by simp [split]) leaving.1
  rw [Slots.release_held has]
  refine books.replaced split rfl rfl rfl rfl rfl ?_ ?_ ?_ fun _ => ended
  · rw [Handler.slotsOf_split]
    exact (first.erase h.slot).trans (by rw [List.erase_cons_head]; exact List.Perm.refl _)
  · have some := List.length_pos_of_mem has
    show s.slots.free + 1 + (s.slots.held.erase h.slot).length = _
    rw [List.length_erase_of_mem has]
    omega
  · rw [Handler.activeOf_split]
    exact active

theorem accounted_turn (books : Accounted limit moves s) (turn : Turn s m s') :
    Accounted limit (moves ++ [m]) s' := by
  cases turn with
  | enter phase free => exact accounted_enter books free
  | reject phase full => exact accounted_reject books full
  | acceptFails => exact books.framed rfl rfl rfl rfl
  | connection split listened step => exact accounted_connection books split step
  | finish split status ended => exact accounted_finish books split status ended
  | release split status => exact accounted_release books split status
  | shutdown => exact books.framed rfl rfl rfl rfl
  | wait => exact books.framed rfl rfl rfl rfl
  | stop => exact books.framed rfl rfl rfl rfl
  | force => exact books.framed rfl rfl rfl rfl
  | abandon => exact books.framed rfl rfl rfl rfl

/-- The books agree along every run. -/
theorem run_accounted {s₀ : Server} (fresh : s₀.Fresh) (run : s₀.run moves = some s) :
    Accounted s₀.slots.max moves s :=
  run_induction fresh fresh.accounted (fun _ _ books turn => accounted_turn books turn) run

/-! ## Leaving -/

/-- A handler whose connection has ended can leave, whatever the end was. -/
theorem finish_possible (numbered : s.Numbered) {h : Handler} (member : h ∈ s.handlers)
    (counts : h.counts = true) (ended : h.connection.isOver = true) :
    (s.step (.finish h.id)).isSome = true := by
  have found := handler?_of_mem numbered.distinct member
  have ready : h.status = .counted ∧ h.connection.isOver = true :=
    ⟨by simpa [Handler.counts] using counts, ended⟩
  show (s.finish h.id).isSome = true
  rw [finish, found, Option.bind_eq_bind, Option.bind_some, if_pos ready]
  rfl

theorem release_possible (numbered : s.Numbered) {h : Handler} (member : h ∈ s.handlers)
    (leaving : h.status = .leaving) : (s.step (.release h.id)).isSome = true := by
  have found := handler?_of_mem numbered.distinct member
  show (s.release h.id).isSome = true
  rw [release, found, Option.bind_eq_bind, Option.bind_some, if_pos leaving]
  rfl

theorem Accounted.none_left (books : Accounted limit moves s)
    (gone : ∀ h ∈ s.handlers, h.status = .gone) : s.active = 0 ∧ s.slots.held = [] := by
  have free : s.slots.held = [] := by
    have none : s.handlers.filter Handler.holds = [] :=
      List.filter_eq_nil_iff.2 fun h member => by simp [Handler.holds, gone h member]
    have held := books.held
    rw [Handler.slotsOf, none] at held
    exact held.eq_nil
  refine ⟨?_, free⟩
  rw [books.active, Handler.activeOf, List.countP_eq_zero]
  intro h member
  simp [Handler.counts, gone h member]

/-! ## Arriving -/

/-- A client is taken in if a slot is free; otherwise it gets no handler and no number. -/
theorem arrive_cases {address : SocketAddress} {client : Transport} (numbered : s.Numbered)
    (books : Accounted limit moves s) (arrived : s.step (.arrive address client) = some s') :
    (s.slots.active = limit ∧ s'.handlers = s.handlers ∧ s'.nextId = s.nextId) ∨
    (s.slots.active ≠ limit ∧ ∃ h, s'.handlers = s.handlers ++ [h] ∧
      h.id = s.handlers.length + 1 ∧ h.connection = ({ client } : Connection) ∧
      h.counts = true) := by
  have full := books.active_eq_limit
  cases turn_of_step numbered arrived with
  | enter phase some =>
    exact Or.inr ⟨fun all => Nat.ne_of_gt some (full.1 all), _, rfl, numbered.nextId, rfl, rfl⟩
  | reject phase none => exact Or.inl ⟨full.2 none, rfl, rfl⟩

/-- The books of the accept loop, for every limit and every schedule. The handlers that have a slot
are never more than the limit, and those that count as active are among them; a handler counts
until its connection has ended. A client that arrives gets the next number and one handler, or
neither, and this just when all slots are held. Whatever its end was, a handler can leave, and when
all are gone, nothing counts as active and no slot is held. -/
theorem run_accounts {s₀ : Server} (fresh : s₀.Fresh) (run : s₀.run moves = some s) :
    (s.slots.active = s.handlers.countP Handler.holds ∧ s.slots.active ≤ s₀.slots.max) ∧
    (s.active = s.handlers.countP Handler.counts ∧ s.active ≤ s.slots.active ∧
      ∀ h ∈ s.handlers, h.connection.isOver = false → h.counts = true) ∧
    (s.handlers.map (·.id) = List.range' 1 s.slots.created ∧
      s.slots.created + s.slots.rejected = moves.countP Move.isArrival) ∧
    (∀ address client s', s.step (.arrive address client) = some s' →
      (s.slots.active = s₀.slots.max → s'.handlers = s.handlers ∧ s'.nextId = s.nextId) ∧
      (s.slots.active ≠ s₀.slots.max → ∃ h, s'.handlers = s.handlers ++ [h] ∧
        h.id = s.handlers.length + 1 ∧ h.connection = ({ client } : Connection) ∧
        h.counts = true)) ∧
    (∀ h ∈ s.handlers, h.connection.isOver = true →
      (h.counts = true → (s.step (.finish h.id)).isSome = true) ∧
      (h.status = .leaving → (s.step (.release h.id)).isSome = true)) ∧
    ((∀ h ∈ s.handlers, h.status = .gone) → s.active = 0 ∧ s.slots.held = []) := by
  have numbered := run_numbered fresh run
  have books := run_accounted fresh run
  have holds := books.slots
  refine ⟨⟨?_, books.bounded⟩, ⟨books.active, ?_, ?_⟩, ⟨?_, books.arrivals⟩, ?_, ?_,
    books.none_left⟩
  · rw [holds, Handler.slotsOf, List.length_map, List.countP_eq_length_filter]
  · rw [holds, books.active]
    exact Handler.activeOf_le s.handlers
  · intro h member going
    by_contra counts
    have ended := books.ended h member (Bool.eq_false_iff.2 counts)
    rw [going] at ended
    cases ended
  · rw [books.created]
    exact numbered.ids
  · intro address client s' arrived
    rcases arrive_cases numbered books arrived with ⟨full, same⟩ | ⟨free, taken⟩
    · exact ⟨fun _ => same, fun free => absurd full free⟩
    · exact ⟨fun full => absurd full free, fun _ => taken⟩
  · intro h member ended
    exact ⟨fun counts => finish_possible numbered member counts ended,
      fun leaving => release_possible numbered member leaving⟩

/-- A server with a single slot, and three clients; the second finds it taken, the third finds it
given back. -/
theorem run_accounts_single :
    let s₀ := (ofConfig { server := { maxConnections := 1 } }).begin
    let sender : SocketAddress := .v4 Ipv4.loopback 50000
    let moves : List Move :=
      [.arrive sender {}, .arrive sender {}, .connection 1 (.resolve (.error .earlyEof)),
        .finish 1, .release 1, .arrive sender {}]
    ∃ s, s₀.run moves = some s ∧ s.slots.created = 2 ∧ s.slots.rejected = 1 ∧
      s.handlers.map (·.id) = [1, 2] ∧ s.active ≤ s.slots.active ∧ s.slots.active ≤ 1 := by
  intro s₀ sender moves
  have fresh : s₀.Fresh := fresh_begin _
  have ended : (s₀.run moves).map (fun s => s.slots.created) = some 2 := by decide +kernel
  obtain ⟨s, run, created⟩ := Option.map_eq_some_iff.1 ended
  obtain ⟨⟨-, bounded⟩, ⟨-, below, -⟩, ⟨ids, arrivals⟩, -⟩ := run_accounts fresh run
  have three : moves.countP Move.isArrival = 3 := rfl
  rw [created] at ids arrivals
  exact ⟨s, run, created, by omega, ids, below, bounded⟩

end

end Server

end Sluice
