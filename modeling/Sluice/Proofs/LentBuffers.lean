import Sluice.Relay.Lending

/-
  The books of a buffer pool. Whatever is borrowed and given back, every buffer that was ever made
  is with one guard, idle, or thrown away, and no two places have the same one (`Books`,
  `books_turn`). So a pool that never lends more than it may keep throws nothing away and has made
  as many buffers as were once lent together (`run_allocates`, `run_lends`).
-/

namespace Sluice

namespace Lending

/-- Does a step ask for a buffer? -/
def Step.isCheckout : Step → Bool
  | .checkout _ => true
  | .drop _ => false

/-- The buffers that a step throws away: one that comes back while enough are idle. -/
def discards (l : Lending) : Step → List Buffer
  | .checkout _ => []
  | .drop i => if l.pool.idle.length < l.pool.maxIdle then [] else l.guards[i]?.join.toList

/-- The buffers that are thrown away in a run. -/
def discarded (l : Lending) : List Step → List Buffer
  | [] => []
  | s :: steps => l.discards s ++ (l.step s).2.discarded steps

/-- The most guards that are live at once in a run. -/
def peak (l : Lending) : List Step → Nat
  | [] => l.held.length
  | s :: steps => max l.held.length ((l.step s).2.peak steps)

/-! ## What a step does -/

/-- All that a step can do, told by the buffers that guards hold before and after. -/
inductive Turn (l : Lending) : Step → Lending → Prop where
  | make {mark buffer l'} : l.pool.idle = [] → buffer.serial = l.pool.allocated →
      l'.held = l.held ++ [buffer] →
      l'.pool = { l.pool with allocated := l.pool.allocated + 1, inUse := l.pool.inUse + 1 } →
      Turn l (.checkout mark) l'
  | reuse {mark old idle buffer l'} : l.pool.idle = old :: idle → buffer.serial = old.serial →
      l'.held = l.held ++ [buffer] →
      l'.pool = { l.pool with idle, reused := l.pool.reused + 1, inUse := l.pool.inUse + 1 } →
      Turn l (.checkout mark) l'
  | nothing {i} : l.discards (.drop i) = [] → Turn l (.drop i) l
  | keep {i before buffer after l'} : l.held = before ++ buffer :: after →
      l'.held = before ++ after → l.pool.idle.length < l.pool.maxIdle →
      l.discards (.drop i) = [] →
      l'.pool = { l.pool with inUse := l.pool.inUse - 1, idle := buffer :: l.pool.idle } →
      Turn l (.drop i) l'
  | discard {i before buffer after l'} : l.held = before ++ buffer :: after →
      l'.held = before ++ after → l.pool.maxIdle ≤ l.pool.idle.length →
      l.discards (.drop i) = [buffer] → l'.pool = { l.pool with inUse := l.pool.inUse - 1 } →
      Turn l (.drop i) l'

theorem held_push (pool : Pool) (guards : Array (Option Buffer)) (buffer : Buffer) :
    held { pool, guards := guards.push (some buffer) } =
      guards.toList.filterMap id ++ [buffer] := by
  simp [held]

/-- A guard that is dropped was one of those that are live. -/
theorem held_drop {l : Lending} {i : Nat} {buffer : Buffer}
    (live : l.guards[i]?.join = some buffer) :
    ∃ before after, l.held = before ++ buffer :: after ∧
      ∀ pool, held { pool, guards := l.guards.setIfInBounds i none } = before ++ after := by
  have found : l.guards.toList[i]? = some (some buffer) := by
    rw [Array.getElem?_toList]
    exact Option.join_eq_some_iff.1 live
  obtain ⟨bound, here⟩ := List.getElem?_eq_some_iff.1 found
  have split : l.guards.toList = l.guards.toList.take i ++ some buffer ::
      l.guards.toList.drop (i + 1) := by
    rw [← here, List.getElem_cons_drop, List.take_append_drop]
  refine ⟨(l.guards.toList.take i).filterMap id, (l.guards.toList.drop (i + 1)).filterMap id,
    ?_, fun pool => ?_⟩
  · refine (congrArg (List.filterMap id) split).trans ?_
    rw [List.filterMap_append]
    rfl
  · rw [held, Array.toList_setIfInBounds, List.set_eq_take_append_cons_drop, if_pos bound,
      List.filterMap_append, List.filterMap_cons_none rfl]

theorem turn_step (l : Lending) (s : Step) : l.Turn s (l.step s).2 := by
  cases s with
  | checkout mark =>
    simp only [step, Pool.checkout]
    split
    · next none =>
      refine .make none ?_ (held_push ..) rfl
      cases mark <;> rfl
    · next was =>
      refine .reuse was ?_ (held_push ..) rfl
      cases mark <;> rfl
  | drop i =>
    simp only [step]
    split
    · next gone => exact .nothing (by simp [discards, gone])
    · next buffer live =>
      obtain ⟨before, after, held, dropped⟩ := held_drop live
      by_cases room : l.pool.idle.length < l.pool.maxIdle
      · refine .keep held (dropped _) room (by simp [discards, room]) ?_
        simp [Pool.giveBack, room]
      · refine .discard held (dropped _) (Nat.le_of_not_lt room) (by simp [discards, room, live]) ?_
        simp [Pool.giveBack, room]

/-! ## The books -/

/-- Every buffer that was made is held, idle or thrown away, and only once. -/
structure Books (lost : List Buffer) (l : Lending) : Prop where
  inUse : l.pool.inUse = l.held.length
  idle : l.pool.idle.length ≤ l.pool.maxIdle
  serials : ((l.held ++ (l.pool.idle ++ lost)).map Buffer.serial).Perm
    (List.range l.pool.allocated)

variable {lost : List Buffer} {l l' : Lending} {s : Step}

theorem books_start (maxIdle : Nat) : Books [] { pool := { maxIdle } } where
  inUse := rfl
  idle := Nat.zero_le _
  serials := List.Perm.nil

theorem Books.allocated (books : l.Books lost) :
    l.pool.allocated = l.pool.inUse + l.pool.idle.length + lost.length := by
  have all := books.serials.length_eq
  simp only [List.length_map, List.length_append, List.length_range] at all
  rw [books.inUse, ← all, Nat.add_assoc]

theorem books_turn (books : l.Books lost) (turn : l.Turn s l') :
    l'.Books (lost ++ l.discards s) := by
  have inUse := books.inUse
  have serials := books.serials
  cases turn with
  | @make mark buffer _ none serial held pool =>
    refine ⟨?_, ?_, ?_⟩
    · rw [pool, held, List.length_append, ← inUse]
      rfl
    · rw [pool]
      exact books.idle
    · rw [pool, held, discards, List.append_nil, List.range_succ]
      refine List.Perm.trans ?_ (serials.append_right [l.pool.allocated])
      rw [← serial, ← List.map_singleton, ← List.map_append, List.append_assoc, List.append_assoc]
      exact (List.perm_append_comm.append_left l.held).map _
  | @reuse mark old idle buffer _ was serial held pool =>
    have bound := books.idle
    rw [was] at bound serials
    refine ⟨?_, ?_, ?_⟩
    · rw [pool, held, List.length_append, ← inUse]
      rfl
    · rw [pool]
      exact Nat.le_of_lt bound
    · rw [pool, held, discards, List.append_nil]
      simpa [serial] using serials
  | nothing none =>
    rw [none, List.append_nil]
    exact books
  | @keep i before buffer after _ held held' room none pool =>
    rw [held, List.length_append, List.length_cons] at inUse
    rw [held] at serials
    refine ⟨?_, ?_, ?_⟩
    · rw [pool, held', List.length_append]
      show l.pool.inUse - 1 = _
      omega
    · rw [pool]
      exact room
    · rw [pool, held', none, List.append_nil]
      refine List.Perm.trans (List.Perm.map _ ?_) serials
      rw [List.append_assoc, List.append_assoc]
      exact List.perm_middle.append_left before
  | @discard i before buffer after _ held held' full thrown pool =>
    rw [held, List.length_append, List.length_cons] at inUse
    rw [held] at serials
    refine ⟨?_, ?_, ?_⟩
    · rw [pool, held', List.length_append]
      show l.pool.inUse - 1 = _
      omega
    · rw [pool]
      exact books.idle
    · rw [pool, held', thrown]
      refine List.Perm.trans (List.Perm.map _ ?_) serials
      rw [List.append_assoc, List.append_assoc, ← List.append_assoc _ lost,
        ← List.append_assoc after]
      refine List.Perm.append_left before ?_
      rw [List.cons_append]
      exact List.perm_append_singleton buffer _

theorem run_cons (l : Lending) (s : Step) (steps : List Step) :
    (l.run (s :: steps)).2 = ((l.step s).2.run steps).2 :=
  rfl

/-- The books agree along every run. -/
theorem run_books (steps : List Step) (books : l.Books lost) :
    (l.run steps).2.Books (lost ++ l.discarded steps) := by
  induction steps generalizing l lost with
  | nil =>
    rw [discarded, List.append_nil]
    exact books
  | cons s steps ih =>
    rw [run_cons, discarded, ← List.append_assoc]
    exact ih (books_turn books (turn_step l s))

theorem turn_checkouts (turn : l.Turn s l') :
    l'.pool.maxIdle = l.pool.maxIdle ∧
      l'.pool.checkouts = l.pool.checkouts + if s.isCheckout then 1 else 0 := by
  cases turn with
  | make none serial held pool =>
    rw [pool]
    exact ⟨rfl, Nat.add_right_comm _ _ _⟩
  | reuse was serial held pool =>
    rw [pool]
    exact ⟨rfl, rfl⟩
  | nothing => exact ⟨rfl, rfl⟩
  | keep held held' room none pool =>
    rw [pool]
    exact ⟨rfl, rfl⟩
  | discard held held' full thrown pool =>
    rw [pool]
    exact ⟨rfl, rfl⟩

theorem run_checkouts (l : Lending) (steps : List Step) :
    (l.run steps).2.pool.maxIdle = l.pool.maxIdle ∧
      (l.run steps).2.pool.checkouts = l.pool.checkouts + steps.countP Step.isCheckout := by
  induction steps generalizing l with
  | nil => exact ⟨rfl, rfl⟩
  | cons s steps ih =>
    obtain ⟨kept, counted⟩ := turn_checkouts (turn_step l s)
    rw [run_cons, (ih _).1, (ih _).2, kept, counted, List.countP_cons]
    exact ⟨rfl, by omega⟩

/-! ## The most that were lent together -/

theorem held_le_peak (l : Lending) (steps : List Step) : l.held.length ≤ l.peak steps := by
  cases steps with
  | nil => exact Nat.le_refl _
  | cons s steps => exact Nat.le_max_left _ _

/-- Nothing was thrown away, so a buffer is made only if all there are have been lent. -/
theorem turn_allocated (books : l.Books []) (turn : l.Turn s l') :
    l'.pool.allocated = max l.pool.allocated l'.held.length := by
  have inUse := books.inUse
  have allocated := books.allocated
  simp only [List.length_nil] at allocated
  cases turn with
  | make none serial held pool =>
    rw [pool, held, List.length_append, List.length_singleton]
    rw [none, List.length_nil] at allocated
    show l.pool.allocated + 1 = _
    omega
  | reuse was serial held pool =>
    rw [pool, held, List.length_append, List.length_singleton]
    rw [was, List.length_cons] at allocated
    show l.pool.allocated = _
    omega
  | nothing => omega
  | keep held held' room none pool =>
    rw [pool, held', List.length_append]
    rw [held, List.length_append, List.length_cons] at inUse
    show l.pool.allocated = _
    omega
  | discard held held' full thrown pool =>
    rw [pool, held', List.length_append]
    rw [held, List.length_append, List.length_cons] at inUse
    show l.pool.allocated = _
    omega

/-- A pool that may keep all its buffers throws none away. -/
theorem discards_nil (books : l.Books []) (few : l.pool.allocated ≤ l.pool.maxIdle)
    (turn : l.Turn s l') : l.discards s = [] := by
  cases turn with
  | make => rfl
  | reuse => rfl
  | nothing none => exact none
  | keep held held' room none pool => exact none
  | discard held held' full thrown pool =>
    have inUse := books.inUse
    have allocated := books.allocated
    rw [held, List.length_append, List.length_cons] at inUse
    omega

theorem run_allocates (steps : List Step) (books : l.Books [])
    (few : l.pool.allocated ≤ l.pool.maxIdle) (bound : l.peak steps ≤ l.pool.maxIdle) :
    l.discarded steps = [] ∧
      (l.run steps).2.pool.allocated = max l.pool.allocated (l.peak steps) := by
  induction steps generalizing l with
  | nil =>
    have inUse := books.inUse
    have allocated := books.allocated
    refine ⟨rfl, ?_⟩
    show l.pool.allocated = max l.pool.allocated l.held.length
    omega
  | cons s steps ih =>
    have turn := turn_step l s
    have none := discards_nil books few turn
    have books' : (l.step s).2.Books [] := by
      have := books_turn books turn
      rwa [none] at this
    have allocated := turn_allocated books turn
    have kept := (turn_checkouts turn).1
    have live := held_le_peak (l.step s).2 steps
    rw [peak] at bound
    obtain ⟨nothing, made⟩ := ih books' (by omega) (by omega)
    refine ⟨by rw [discarded, none, nothing]; rfl, ?_⟩
    have inUse := books.inUse
    have all := books.allocated
    rw [run_cons, made, peak]
    omega

/-! ## The whole -/

/-- A new buffer is blank and made only if none is idle. -/
theorem step_checkout (l : Lending) (mark : Option UInt8) :
    ∃ buffer, (l.step (.checkout mark)).1 = .lent l.guards.size buffer ∧
      (l.pool.idle = [] → buffer.octets = List.replicate 65536 0 ∧
        (l.step (.checkout mark)).2.pool.allocated = l.pool.allocated + 1) ∧
      (l.pool.idle ≠ [] → buffer ∈ l.pool.idle ∧
        (l.step (.checkout mark)).2.pool.allocated = l.pool.allocated) := by
  simp only [step, Pool.checkout]
  split
  · next none => exact ⟨_, rfl, fun _ => ⟨rfl, rfl⟩, fun some => absurd none some⟩
  · next was =>
    rw [was]
    exact ⟨_, rfl, nofun, fun _ => ⟨List.mem_cons_self, rfl⟩⟩

/-- The books of a pool that starts empty, however buffers are borrowed and given back. Those in use
are the live guards', each borrowing either made a buffer or used one again, and no more are idle
than may be. The buffers that guards hold, the idle ones and those that were thrown away are all
that were ever made, each just once, and all of one size. A buffer that is handed out is new, and
then blank, just if none is idle. If never more guards are live than buffers may be kept, then none
is thrown away, and as many were made as were live together at most. -/
theorem run_lends (maxIdle : Nat) (steps : List Step) :
    let l₀ : Lending := { pool := { maxIdle } }
    let l := (l₀.run steps).2
    let lost := l₀.discarded steps
    (l.pool.inUse = l.held.length ∧ l.pool.checkouts = steps.countP Step.isCheckout ∧
      l.pool.idle.length ≤ maxIdle ∧
      l.pool.allocated = l.pool.inUse + l.pool.idle.length + lost.length) ∧
    (((l.held ++ (l.pool.idle ++ lost)).map Buffer.serial).Perm (List.range l.pool.allocated) ∧
      ((l.held ++ l.pool.idle).map Buffer.serial).Nodup ∧
      ∀ buffer ∈ l.held ++ l.pool.idle, buffer.octets.length = 65536) ∧
    (∀ mark, ∃ buffer, (l.step (.checkout mark)).1 = .lent l.guards.size buffer ∧
      (l.pool.idle = [] → buffer.octets = List.replicate 65536 0 ∧
        (l.step (.checkout mark)).2.pool.allocated = l.pool.allocated + 1) ∧
      (l.pool.idle ≠ [] → buffer ∈ l.pool.idle ∧
        (l.step (.checkout mark)).2.pool.allocated = l.pool.allocated)) ∧
    (l₀.peak steps ≤ maxIdle → lost = [] ∧ l.pool.allocated = l₀.peak steps) := by
  intro l₀ l lost
  have books : l.Books lost := run_books steps (books_start maxIdle)
  obtain ⟨kept, checkouts⟩ := run_checkouts l₀ steps
  refine ⟨⟨books.inUse, ?_, Nat.le_trans books.idle (Nat.le_of_eq kept), books.allocated⟩,
    ⟨books.serials, ?_, ?_⟩, step_checkout l, fun bound => ?_⟩
  · rw [checkouts]
    exact Nat.zero_add _
  · have distinct := books.serials.nodup_iff.2 List.nodup_range
    rw [← List.append_assoc, List.map_append] at distinct
    exact (List.nodup_append.1 distinct).1
  · exact fun buffer _ => buffer.length_octets
  · obtain ⟨none, made⟩ := run_allocates steps (books_start maxIdle) (Nat.zero_le _) bound
    exact ⟨none, made.trans (Nat.zero_max _)⟩

end Lending

end Sluice
