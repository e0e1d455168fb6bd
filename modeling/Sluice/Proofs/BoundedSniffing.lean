import Sluice.Proofs.HeardOctets
import Sluice.Proofs.Sniffing

/-
  Sniffing takes no more of a stream than it has room to put back. A stage is `Modest` if it leaves
  so much to be read again at most, or what was held before if that is more; what is heard through
  the peek bounds it, and stages one behind the other stay within the same bound. A stream that goes
  on for ever is `Ongoing` as far as it has arrived: a stage that would have to wait for more has
  been given all of it, which is too much. So it comes to its end on every stream, and where that is
  endless, on a front of it (`endless_decided`).
-/

namespace Sluice

/-! ## Somebody who is cut off -/

namespace Timed

theorem length_await (room attempts : Nat) (s : Source) :
    (await room attempts s).1.octets.length ≤ room := by
  fun_induction await room attempts s with
  | case1 => exact Nat.zero_le _
  | case2 attempts s s' _ ih => exact ih
  | case3 attempts s polled s' _ came =>
    have short := s.length_poll room
    rw [came] at short
    exact short

theorem metered : Metered (fun t (s s' : Timed) => s.source.unread = t ++ s'.source.unread)
    fun _ => True where
  nil _ := rfl
  append first more := by rw [first, more, List.append_assoc]
  unread h := h
  read room s := (Readable.read_unread room s).symm
  short room s := by
    show (s.read room).1.octets.length ≤ room
    unfold read
    split
    · exact Nat.zero_le _
    · exact length_await room s.attempts s.source
  waits _ _ _ := trivial

end Timed

/-! ## Streams that go on -/

/-- What has arrived so far on a stream that goes on. Whoever has read all of it waits. -/
structure Ongoing where
  arrived : Source

namespace Ongoing

/-- Reads at most `room` octets of those that have arrived. -/
def read (room : Nat) (a : Ongoing) : Polled × Ongoing :=
  if room = 0 then (.ready [], a)
  else
    match a.arrived.settle with
    | [] => (.pending, ⟨[]⟩)
    | s => ((s.poll room).1, ⟨(s.poll room).2⟩)

theorem read_unread (room : Nat) (a : Ongoing) :
    (a.read room).1.octets ++ (a.read room).2.arrived.unread = a.arrived.unread := by
  unfold read
  split
  · rfl
  · split
    · next none =>
      rw [← a.arrived.unread_settle, none]
      rfl
    · rw [Source.poll_unread, Source.unread_settle]

instance : Readable Ongoing where
  read := read
  unread a := a.arrived.unread
  read_unread := read_unread

end Ongoing

namespace Source

theorem settle_append {s : Source} (filled : s.settle ≠ []) (behind : Source) :
    (s ++ behind).settle = s.settle ++ behind := by
  fun_induction settle s with
  | case1 rest ih => exact ih filled
  | case2 rest ih => exact ih filled
  | case3 s notWait notEmpty =>
    cases s with
    | nil => exact absurd rfl filled
    | cons arrival rest =>
      rw [List.cons_append, settle]
      · rintro rest' ⟨⟩
        exact notWait rest rfl
      · rintro rest' ⟨⟩
        exact notEmpty rest rfl

theorem poll_append {s : Source} (filled : s.settle ≠ []) (room : Nat) (behind : Source) :
    (s.settle.poll room).1 = .pending ∨ (s.settle ++ behind).poll room =
      ((s.settle.poll room).1, (s.settle.poll room).2 ++ behind) := by
  fun_induction settle s with
  | case1 rest ih => exact ih filled
  | case2 rest ih => exact ih filled
  | case3 s notWait notEmpty =>
    cases s with
    | nil => exact absurd rfl filled
    | cons arrival rest =>
      cases arrival with
      | wait => exact absurd rfl (notWait rest)
      | failure e => exact Or.inr rfl
      | silence => exact Or.inl rfl
      | data octets =>
        cases octets with
        | nil => exact absurd rfl (notEmpty rest)
        | cons b t => exact Or.inr rfl

theorem unread_append (s t : Source) : unread (s ++ t) = unread s ++ unread t := by
  induction s with
  | nil => rfl
  | cons arrival s ih => cases arrival <;> simp [unread, ih]

end Source

namespace Ongoing

/-- A read waits if all that has arrived is read; else it is a read of that. -/
theorem read_eq (room : Nat) (a : Ongoing) :
    (a.read room = (.pending, ⟨[]⟩) ∧ a.arrived.unread = []) ∨
      a.read room = ((a.arrived.read room).1, ⟨(a.arrived.read room).2⟩) := by
  unfold read Source.read
  split
  · exact Or.inr rfl
  · split
    · next none =>
      refine Or.inl ⟨rfl, ?_⟩
      rw [← a.arrived.unread_settle, none]
      rfl
    · exact Or.inr rfl

theorem metered : Metered (fun t (a a' : Ongoing) => Source.Took t a.arrived a'.arrived)
    fun a => .silence ∈ a.arrived ∨ a.arrived.unread = [] where
  nil _ := Source.metered.nil _
  append := Source.metered.append
  unread h := h.unread
  read room a := by
    show Source.Took (a.read room).1.octets a.arrived (a.read room).2.arrived
    rcases a.read_eq room with ⟨waits, none⟩ | same
    · rw [waits]
      exact ⟨none, nofun⟩
    · rw [same]
      exact Source.metered.read room a.arrived
  short room a := by
    show (a.read room).1.octets.length ≤ room
    rcases a.read_eq room with ⟨waits, -⟩ | same
    · rw [waits]
      exact Nat.zero_le _
    · rw [same]
      exact Source.metered.short room a.arrived
  waits room a := by
    show (a.read room).1 = .pending →
      .silence ∈ (a.read room).2.arrived ∨ (a.read room).2.arrived.unread = []
    rcases a.read_eq room with ⟨waits, -⟩ | same
    · rw [waits]
      exact fun _ => Or.inr rfl
    · rw [same]
      exact fun pending => Or.inl (Source.metered.waits room a.arrived pending)

/-- What comes later makes no difference to a read that need not wait for it. -/
theorem read_append (behind : Source) (room : Nat) (a : Ongoing) :
    (Readable.read room a).1 = .pending ∨
      Readable.read room (a.arrived ++ behind) =
        ((Readable.read room a).1, (Readable.read room a).2.arrived ++ behind) := by
  show (a.read room).1 = .pending ∨
    Source.read room (a.arrived ++ behind) = ((a.read room).1, (a.read room).2.arrived ++ behind)
  unfold read Source.read
  split
  · exact Or.inr rfl
  · split
    · exact Or.inl rfl
    · next filled =>
      rw [Source.settle_append filled]
      exact Source.poll_append filled room behind

end Ongoing

namespace Sniff

open Session Tls Http

variable {σ ε α β : Type} {took : Octets → σ → σ → Prop} {stuck : σ → Prop} {n : Nat}

/-! ## Stages -/

theorem hears_muted {p : Session (ReadOnly σ) ε α} {D : Octets → α → Prop} {S : Octets → Prop}
    (h : Hears (fun t s s' => took t s.inner s'.inner) (fun s => stuck s.inner) p D S) :
    Hears took stuck (muted p) D S := by
  intro s
  obtain ⟨t, all, came⟩ := h ⟨s⟩
  refine ⟨t, all, ?_⟩
  rcases ended : p ⟨s⟩ with ⟨outcome, s'⟩
  rw [ended] at came
  simp only [muted, ended]
  cases outcome with
  | done a => exact came
  | failed e => exact came
  | pending => exact came

/-- Does a stage leave so much to be read again at most, or what was held if that is more? Kept
waiting for ever, it leaves the source stuck. -/
def Modest (took : Octets → σ → σ → Prop) (stuck : σ → Prop) (n : Nat)
    (p : Session (Replay σ) ε α) : Prop :=
  ∀ r, (p r).2.buffered ≤ max r.buffered n ∧ (∃ t, took t r.source (p r).2.source) ∧
    ((p r).1 = .pending → stuck (p r).2.source)

variable [Readable σ]

theorem hears_readProtocol (m : Metered took stuck) :
    Hears took stuck (readProtocol (σ := σ)) (fun t _ => t.length ≤ 1) fun t => t.length ≤ 1 := by
  refine hears_bind m (hears_read m _ _) (fun t none => by rw [none]; exact Nat.zero_le 1) ?_
  rintro t _ ⟨rfl, short⟩
  split
  · exact hears_fail m _ (Nat.zero_le 1)
  · refine hears_pure m ?_
    rw [List.append_nil]
    exact short

theorem hears_readHello (m : Metered took stuck) :
    Hears took stuck (readHello (σ := σ)) (fun t _ => Started 0 t) (Started 0) := by
  refine hears_bind m (hears_messageFrom m _ _ (by decide)) (fun _ started => started) ?_
  intro t message started
  rw [← List.append_nil t] at started
  split
  · exact hears_pure m started
  · exact hears_fail m _ started

theorem hears_readHead (m : Metered took stuck) : Hears took stuck (readHead (σ := σ))
    (fun t head => t.length ≤ 69631 ∧ t.length < head.length + 4096) fun t => t.length ≤ 69631 := by
  have size : (#[] : Array UInt8).size = 0 := rfl
  have limit : maxHead + readRoom = 69632 := rfl
  refine (hears_readHeadFrom m #[] parse_nil (by decide)).imp ?_ ?_
  · rintro t head ⟨short, short'⟩
    rw [size, Nat.zero_add] at short short'
    rw [limit] at short
    exact ⟨Nat.le_of_lt_succ short, short'⟩
  · intro t short
    rw [size, Nat.zero_add, limit] at short
    exact Nat.le_of_lt_succ short

theorem modest_peeking {p : Session (Peek σ) ε α}
    {D : Octets → α → Prop} {S : Octets → Prop}
    (h : Hears (Peek.Took took) (fun p => Replay.Stuck stuck p.replay) p D S)
    (done : ∀ t a, D t a → t.length ≤ n) (stopped : ∀ t, S t → t.length ≤ n) :
    Modest took stuck n (peeking p) := by
  intro r
  obtain ⟨t, all, came⟩ := h (Peek.start r)
  have few : t.length ≤ n := came.either (done t) (stopped t)
  refine ⟨?_, ⟨_, all.replay.source⟩, fun pending => ?_⟩
  · show (p (Peek.start r)).2.close.buffered ≤ max r.buffered n
    rw [all.buffered]
    omega
  · exact (came.waits (Outcome.map_eq_pending.1 pending)).2

theorem modest_pure (m : Metered took stuck) (a : α) :
    Modest took stuck n (pure a : Session (Replay σ) ε α) :=
  fun r => ⟨Nat.le_max_left _ _, ⟨[], m.nil r.source⟩, fun pending => nomatch pending⟩

theorem modest_bind (m : Metered took stuck) {p : Session (Replay σ) ε α}
    {f : α → Session (Replay σ) ε β} (hp : Modest took stuck n p)
    (hf : ∀ a, Modest took stuck n (f a)) : Modest took stuck n (p >>= f) := by
  intro r
  have first := hp r
  rcases ended : p r with ⟨outcome, r'⟩
  rw [ended] at first
  obtain ⟨few, ⟨t, all⟩, waits⟩ := first
  cases outcome with
  | done a =>
    obtain ⟨few', ⟨t', all'⟩, waits'⟩ := hf a r'
    rw [bind_done ended]
    exact ⟨Nat.le_trans few' (Nat.max_le.2 ⟨few, Nat.le_max_right _ _⟩),
      ⟨t ++ t', m.append all all'⟩, waits'⟩
  | failed e =>
    rw [bind_failed ended]
    exact ⟨few, ⟨t, all⟩, nofun⟩
  | pending =>
    rw [bind_pending ended]
    exact ⟨few, ⟨t, all⟩, fun _ => waits rfl⟩

/-- The most octets that a stage looks at. -/
def maxLooked : Nat := 411647

theorem length_started {t : Octets} (h : Started 0 t) : t.length ≤ maxLooked := by
  obtain ⟨records, last, unfinished, rfl⟩ := h
  exact unfinished.bounds.2

theorem modest_classify (m : Metered took stuck) :
    Modest took stuck maxLooked (classify (σ := σ)) :=
  modest_peeking (hears_readProtocol m.peek)
    (fun _ _ short => Nat.le_trans short (by decide)) fun _ short => Nat.le_trans short (by decide)

theorem modest_clientHello (m : Metered took stuck) :
    Modest took stuck maxLooked (clientHello (σ := σ)) :=
  modest_peeking (hears_muted (hears_readHello m.peek.readOnly))
    (fun _ _ => length_started) fun _ => length_started

theorem modest_httpHead (m : Metered took stuck) :
    Modest took stuck maxLooked (httpHead (σ := σ)) :=
  modest_peeking (hears_readHead m.peek)
    (fun _ _ short => Nat.le_trans short.1 (by decide))
    fun _ short => Nat.le_trans short (by decide)

theorem modest_sniff (m : Metered took stuck) : Modest took stuck maxLooked (sniff (σ := σ)) := by
  refine modest_bind m (modest_classify m) fun found => ?_
  split
  · exact modest_bind m (modest_clientHello m) fun _ => modest_pure m _
  · exact modest_bind m (modest_httpHead m) fun _ => modest_pure m _

theorem modest_run (m : Metered took stuck) (stage : Stage) :
    Modest took stuck maxLooked (stage.run (σ := σ)) := by
  cases stage with
  | classify => exact modest_bind m (modest_classify m) fun _ => modest_pure m _
  | clientHello => exact modest_bind m (modest_clientHello m) fun _ => modest_pure m _
  | httpHead => exact modest_bind m (modest_httpHead m) fun _ => modest_pure m _
  | sniff => exact modest_bind m (modest_sniff m) fun _ => modest_pure m _

/-! ## Visits -/

theorem buffered_visit (v : Visit) (r : Replay) :
    (v.run r).2.buffered ≤ max r.buffered maxLooked := by
  unfold Visit.run
  split
  · exact (modest_run Source.metered v.stage r).1
  · next attempts _ => exact (modest_run Timed.metered v.stage (r.timed attempts)).1

/-- However many stages look at a stream, no more is held than before or than one of them looks
at. -/
theorem buffered_visitAll (r : Replay) (visits : List Visit) :
    ∀ after ∈ visitAll r visits, after.2.buffered ≤ max r.buffered maxLooked := by
  induction visits generalizing r with
  | nil => exact nofun
  | cons v visits ih =>
    intro after mem
    rcases List.mem_cons.1 mem with rfl | mem
    · exact buffered_visit v r
    · exact Nat.le_trans (ih _ after mem)
        (Nat.max_le.2 ⟨buffered_visit v r, Nat.le_max_right _ _⟩)

/-! ## Coming to an end -/

/-- Where no read waits for ever, no stage does. -/
theorem run_ends {r : Replay} (speaks : .silence ∉ r.source) (stage : Stage) :
    (stage.run r).1 ≠ .pending := by
  intro pending
  obtain ⟨-, ⟨t, all⟩, waits⟩ := modest_run Source.metered stage r
  exact speaks (all.silence (waits pending))

variable {feed : Nat → Arrival}

/-- A stream on which octets arrive again and again brings any number of them. -/
theorem length_feed (goesOn : ∀ n, ∃ i, n ≤ i ∧ ∃ b more, feed i = .data (b :: more)) (k : Nat) :
    ∃ n, k ≤ (Source.unread ((List.range n).map feed)).length := by
  induction k with
  | zero => exact ⟨0, Nat.zero_le _⟩
  | succ k ih =>
    obtain ⟨n, long⟩ := ih
    obtain ⟨i, later, b, more, arrives⟩ := goesOn n
    obtain ⟨j, rfl⟩ := Nat.exists_eq_add_of_le later
    refine ⟨n + j + 1, ?_⟩
    rw [List.range_succ, List.range_add]
    simp only [List.map_append, List.map_cons, List.map_nil, Source.unread_append, arrives,
      Source.unread, List.length_append, List.length_cons]
    omega

/-- A stage that looks at an endless stream comes to its end on a front of it, and what arrives
behind that makes no difference. -/
theorem endless_decided (held : Octets) (speaks : ∀ i, feed i ≠ .silence)
    (goesOn : ∀ n, ∃ i, n ≤ i ∧ ∃ b more, feed i = .data (b :: more)) (stage : Stage) :
    ∃ n outcome held' left, outcome ≠ .pending ∧ held'.length ≤ max held.length maxLooked ∧
      ∀ behind : Source, stage.run (⟨held, (List.range n).map feed ++ behind⟩ : Replay) =
        (outcome, ⟨held', left ++ behind⟩) := by
  obtain ⟨n, long⟩ := length_feed goesOn (max held.length maxLooked + 1)
  let r : Replay Ongoing := ⟨held, ⟨(List.range n).map feed⟩⟩
  obtain ⟨few, ⟨t, all⟩, waits⟩ := modest_run Ongoing.metered stage r
  have ends : (stage.run r).1 ≠ .pending := by
    intro pending
    rcases waits pending with silence | none
    · obtain ⟨i, -, same⟩ := List.mem_map.1 (all.silence silence)
      exact speaks i same
    · have kept := congrArg List.length (run_keeps stage r)
      have none : Readable.unread (stage.run r).2.source = [] := none
      have arrived : Readable.unread r.source = Source.unread ((List.range n).map feed) := rfl
      simp only [Replay.unread, none, arrived, List.length_append] at kept
      have few : (stage.run r).2.held.length ≤ max held.length maxLooked := few
      simp only [List.length_nil] at kept
      omega
  refine ⟨n, (stage.run r).1, (stage.run r).2.held, (stage.run r).2.source.arrived, ends, few,
    fun behind => ?_⟩
  exact (follows_run (Ongoing.read_append behind) stage r).resolve_left ends

/-! ## What is looked at -/

/-- The octets that a conversation through a peek has looked at. -/
def lookedAt (p : Session Peek ε α) (r : Replay) : Octets :=
  (p (Peek.start r)).2.recorded.toList

theorem lookedAt_heard {p : Session Peek ε α} {D : Octets → α → Prop} {S : Octets → Prop}
    {stuck : Peek → Prop} (h : Hears (Peek.Took Source.Took) stuck p D S) (r : Replay) :
    Came stuck D S (lookedAt p r) (p (Peek.start r)) := by
  obtain ⟨t, all, came⟩ := h (Peek.start r)
  have same : lookedAt p r = t := all.recorded
  rw [same]
  exact came

/-- What the reader of a hello has looked at, whatever it comes to. -/
theorem started_lookedAt (r : Replay) : Started 0 (lookedAt (muted readHello) r) := by
  have heard : Hears (Peek.Took Source.Took)
      (fun p : Peek => Replay.Stuck (fun s : Source => .silence ∈ s) p.replay)
      (muted readHello) (fun t _ => Started 0 t) (Started 0) :=
    hears_muted (hears_readHello Source.metered.peek.readOnly)
  exact (lookedAt_heard heard r).either (fun _ started => started) id

/-- What the reader of a head has looked at, whatever it comes to. -/
theorem length_lookedAt (r : Replay) : (lookedAt readHead r).length ≤ 69631 ∧
    ∀ head, (readHead (Peek.start r)).1 = .done head →
      (lookedAt readHead r).length < head.length + readRoom := by
  have came := lookedAt_heard (hears_readHead Source.metered.peek) r
  exact ⟨came.either (fun _ looked => looked.1) id, fun head found => (came.done found).2⟩

/-- Sniffing is bounded. Whatever a client sends, the reader of a hello looks at records that are
too few to hold a message of the greatest length, and at no more than one behind them; the reader of
a request head looks at so much, and at less than one read more than the head that it finds. So no
stages, one behind the other and cut off or not, leave more to be read again than was held before or
than the first of these readers looks at. Each stage comes to its end: if the stream does not fall
silent, and if octets arrive for ever, then on a front of the stream. Room for fields is doubled
until it is enough or as much as a text of this length may need. -/
theorem sniffing_bounded (r : Replay) :
    (∃ records last, lookedAt (muted readHello) r = octetsOf records ++ last ∧
      (∀ record ∈ records, record.Valid) ∧ WithinRecord last ∧ records.length + 1 ≤ 65536 ∧
      (lookedAt (muted readHello) r).length ≤ 411647) ∧
    ((lookedAt readHead r).length ≤ 69631 ∧ ∀ head, (readHead (Peek.start r)).1 = .done head →
      (lookedAt readHead r).length < head.length + 4096) ∧
    (∀ visits, ∀ after ∈ visitAll r visits, after.2.buffered ≤ max r.buffered 411647) ∧
    (.silence ∉ r.source → ∀ stage : Stage, (stage.run r).1 ≠ .pending) ∧
    (∀ feed : Nat → Arrival, (∀ i, feed i ≠ .silence) →
      (∀ n, ∃ i, n ≤ i ∧ ∃ b more, feed i = .data (b :: more)) → ∀ stage : Stage,
      ∃ n outcome held left, outcome ≠ .pending ∧ held.length ≤ max r.held.length 411647 ∧
        ∀ behind : Source, stage.run (⟨r.held, (List.range n).map feed ++ behind⟩ : Replay) =
          (outcome, ⟨held, left ++ behind⟩)) ∧
    ∀ s, ∃ k, (∀ j < k, (Request.scanner (64 * 2 ^ j)).run s = .error .tooManyFields) ∧
      parseWith firstSlots firstSlots_pos s = (Request.scanner (64 * 2 ^ k)).run s ∧
      64 * 2 ^ k ≤ max 64 (s.length / 2) := by
  refine ⟨?_, length_lookedAt r, buffered_visitAll r, run_ends, fun feed speaks goesOn stage =>
    endless_decided r.held speaks goesOn stage, parseWith_doubles firstSlots firstSlots_pos⟩
  obtain ⟨records, last, unfinished, octets⟩ := started_lookedAt r
  refine ⟨records, last, octets, unfinished.valid, unfinished.last, unfinished.bounds.1, ?_⟩
  rw [octets]
  exact unfinished.bounds.2

/-- A client that sends a request, and one that sends one letter for ever. -/
theorem sniffing_bounded_endless :
    (lookedAt readHead plainRequestStream).length < 30 + 4096 ∧
    (Stage.httpHead.run plainRequestStream).1 ≠ .pending ∧
    ∃ n outcome held left, outcome ≠ .pending ∧ held.length ≤ 411647 ∧
      ∀ behind : Source, Stage.httpHead.run
        (⟨plainRequestStream.held, (List.range n).map (fun _ => .data [65]) ++ behind⟩ : Replay) =
          (outcome, ⟨held, left ++ behind⟩) := by
  obtain ⟨-, ⟨-, looked⟩, -, ends, endless, -⟩ := sniffing_bounded plainRequestStream
  have told : Tells plainRequest (.ok ⟨30, "GET", some "a"⟩) := by
    show Head.parse plainRequest = .ok (some ⟨30, "GET", some "a"⟩)
    decide +kernel
  have found : (readHead (Peek.start plainRequestStream)).1 = .done ⟨30, "GET", some "a"⟩ :=
    readHead_told told (by decide +kernel) (by decide) (by decide +kernel)
  have goesOn : ∀ n, ∃ i, n ≤ i ∧ ∃ b more, Arrival.data [65] = .data (b :: more) :=
    fun n => ⟨n, Nat.le_refl n, 65, [], rfl⟩
  exact ⟨looked _ found, ends (by decide) .httpHead,
    endless (fun _ => .data [65]) nofun goesOn .httpHead⟩

end Sniff

end Sluice
