import Sluice.Proofs.HeadEnds
import Sluice.Proofs.HeadLimit
import Sluice.Proofs.Records
import Sluice.Proofs.TakenOctets

/-
  How much a conversation takes off a stream, whatever it comes to. A conversation `Hears` so much
  if what it takes is like this when it comes to its end, and like that when it fails or is kept
  waiting; there is a rule for each way of putting conversations together. What reads a handshake
  message takes records whose fragments are together below the limit, and one more at most
  (`hears_messageFrom`); what reads a request head takes one read more at most than it needed
  (`hears_readHeadFrom`).
-/

namespace Sluice

namespace Session

variable {σ ε α β : Type} {took : Octets → σ → σ → Prop} {stuck : σ → Prop}
  {D D' : Octets → α → Prop} {S S' : Octets → Prop}

/-- What it came to, when these octets were taken. -/
def Came (stuck : σ → Prop) (D : Octets → α → Prop) (S : Octets → Prop) (t : Octets) :
    Outcome ε α × σ → Prop
  | (.done a, _) => D t a
  | (.failed _, _) => S t
  | (.pending, s) => S t ∧ stuck s

/-- Does a conversation take octets like `D` tells if it comes to its end, and like `S` if it does
not? Kept waiting for ever, it leaves the stream stuck. -/
def Hears (took : Octets → σ → σ → Prop) (stuck : σ → Prop) (p : Session σ ε α)
    (D : Octets → α → Prop) (S : Octets → Prop) : Prop :=
  ∀ s, ∃ t, took t s (p s).2 ∧ Came stuck D S t (p s)

theorem Came.imp {t : Octets} {came : Outcome ε α × σ} (h : Came stuck D S t came)
    (done : ∀ a, D t a → D' t a) (stopped : S t → S' t) : Came stuck D' S' t came := by
  rcases came with ⟨outcome, s⟩
  cases outcome with
  | done a => exact done a h
  | failed e => exact stopped h
  | pending => exact ⟨stopped h.1, h.2⟩

/-- What both tell of the octets is so. -/
theorem Came.either {F : Prop} {t : Octets} {came : Outcome ε α × σ} (h : Came stuck D S t came)
    (done : ∀ a, D t a → F) (stopped : S t → F) : F := by
  rcases came with ⟨outcome, s⟩
  cases outcome with
  | done a => exact done a h
  | failed e => exact stopped h
  | pending => exact stopped h.1

theorem Came.done {t : Octets} {came : Outcome ε α × σ} {a : α} (h : Came stuck D S t came)
    (ended : came.1 = .done a) : D t a := by
  obtain ⟨_, s⟩ := came
  subst ended
  exact h

theorem Came.waits {t : Octets} {came : Outcome ε α × σ} (h : Came stuck D S t came)
    (pending : came.1 = .pending) : stuck came.2 := by
  obtain ⟨_, s⟩ := came
  subst pending
  exact h.2

theorem Hears.imp {p : Session σ ε α} (h : Hears took stuck p D S)
    (done : ∀ t a, D t a → D' t a) (stopped : ∀ t, S t → S' t) : Hears took stuck p D' S' := by
  intro s
  obtain ⟨t, all, came⟩ := h s
  exact ⟨t, all, came.imp (done t) (stopped t)⟩

variable [Readable σ]

theorem hears_pure (m : Metered took stuck) {a : α} (h : D [] a) :
    Hears took stuck (pure a : Session σ ε α) D S :=
  fun s => ⟨[], m.nil s, h⟩

theorem hears_fail (m : Metered took stuck) (e : ε) (h : S []) :
    Hears took stuck (fail e : Session σ ε α) D S :=
  fun s => ⟨[], m.nil s, h⟩

theorem hears_bind (m : Metered took stuck) {p : Session σ ε α} {f : α → Session σ ε β}
    {F : Octets → β → Prop} (first : Hears took stuck p D S) (stops : ∀ t, S t → S' t)
    (rest : ∀ t a, D t a →
      Hears took stuck (f a) (fun t' b => F (t ++ t') b) fun t' => S' (t ++ t')) :
    Hears took stuck (p >>= f) F S' := by
  intro s
  obtain ⟨t, all, came⟩ := first s
  rcases ended : p s with ⟨outcome, s'⟩
  rw [ended] at all came
  cases outcome with
  | done a =>
    obtain ⟨t', all', came'⟩ := rest t a came s'
    rw [bind_done ended]
    refine ⟨t ++ t', m.append all all', ?_⟩
    rcases ended' : f a s' with ⟨outcome, s''⟩
    rw [ended'] at came'
    cases outcome with
    | done b => exact came'
    | failed e => exact came'
    | pending => exact came'
  | failed e =>
    rw [bind_failed ended]
    exact ⟨t, all, stops t came⟩
  | pending =>
    rw [bind_pending ended]
    exact ⟨t, all, stops t came.1, came.2⟩

/-- One read takes what it hands out. -/
theorem hears_read (m : Metered took stuck) (word : IoError → ε) (room : Nat) :
    Hears took stuck (read word room) (fun t octets => octets = t ∧ t.length ≤ room)
      fun t => t = [] := by
  intro s
  have all := m.read room s
  have short := m.short room s
  have waits := m.waits room s
  rcases came : Readable.read room s with ⟨polled, s'⟩
  rw [came] at all short waits
  simp only [read, came]
  cases polled with
  | ready octets => exact ⟨octets, all, rfl, short⟩
  | failed e => exact ⟨[], all, rfl⟩
  | pending => exact ⟨[], all, rfl, waits rfl⟩

/-- Reading an exact number of octets takes so many, or fewer. -/
theorem hears_readExact (m : Metered took stuck) (word : IoError → ε) (n : Nat) :
    Hears took stuck (readExact word n) (fun t octets => octets = t ∧ t.length = n)
      fun t => t.length < n := by
  intro s
  obtain ⟨t, all, exactly⟩ := m.readExactFrom .earlyEof #[] n s
  rcases came : Readable.readExactFrom .earlyEof #[] n s with ⟨polled, s'⟩
  rw [came] at all exactly
  simp only [readExact, Readable.readExact, came]
  cases polled with
  | ready octets => exact ⟨t, all, exactly⟩
  | failed e => exact ⟨t, all, exactly⟩
  | pending => exact ⟨t, all, exactly⟩

end Session

namespace Tls

open Session

variable {σ : Type} [Readable σ] {took : Octets → σ → σ → Prop} {stuck : σ → Prop}

/-! ## Handshake messages -/

/-- A front of one record, or what might have been a record's header. -/
def WithinRecord (t : Octets) : Prop :=
  t.length ≤ recordHeaderLength ∨ ∃ r : Record, r.Valid ∧ t <+: r.octets

/-- Records that leave a message incomplete, `held` octets of it being there, and what is taken of
one more. -/
structure Unfinished (held : Nat) (records : List Record) (last : Octets) : Prop where
  valid : ∀ r ∈ records, r.Valid
  below : held + (records.flatMap Record.fragment).length < maxMessage
  last : WithinRecord last

/-- Are these the octets of such records? -/
def Started (held : Nat) (t : Octets) : Prop :=
  ∃ records last, Unfinished held records last ∧ t = octetsOf records ++ last

theorem started_last {held : Nat} {t : Octets} (below : held < maxMessage)
    (last : WithinRecord t) : Started held t :=
  ⟨[], t, ⟨nofun, below, last⟩, rfl⟩

/-- One record more in front. -/
theorem Started.behind {held : Nat} {r : Record} {t : Octets} (valid : r.Valid)
    (h : Started (held + r.fragment.length) t) : Started held (r.octets ++ t) := by
  obtain ⟨records, last, unfinished, rfl⟩ := h
  have below := unfinished.below
  refine ⟨r :: records, last, ⟨?_, ?_, unfinished.last⟩, ?_⟩
  · intro r' mem
    rcases List.mem_cons.1 mem with rfl | mem
    · exact valid
    · exact unfinished.valid r' mem
  · rw [List.flatMap_cons, List.length_append]
    omega
  · rw [octetsOf, octetsOf, List.flatMap_cons, List.append_assoc]

theorem withinRecord_header {t : Octets} (h : t.length ≤ recordHeaderLength) : WithinRecord t :=
  Or.inl h

/-- A header and the front of a fragment. -/
theorem withinRecord_front {header front : Octets} {n : { n : Nat // 0 < n }}
    (announces : fragmentLength header = .ok n) (short : front.length ≤ n) :
    WithinRecord (header ++ front) := by
  obtain ⟨major, minor, isHeader⟩ := Record.header_of_fragmentLength announces
  obtain ⟨valid, same⟩ := isHeader (front ++ List.replicate (n - front.length) 0) (by
    rw [List.length_append, List.length_replicate]
    omega)
  refine Or.inr ⟨_, valid, ?_⟩
  rw [Record.octets, same, ← List.append_assoc]
  exact List.prefix_append _ _

/-- Whatever the reader of a message comes to, it has taken records that leave the message
incomplete and no more than one behind them. -/
theorem hears_messageFrom (m : Metered took stuck) (front : Array UInt8) (held : Nat)
    (below : held < maxMessage) :
    Hears took stuck (messageFrom (σ := σ) front held) (fun t _ => Started held t)
      (Started held) := by
  fun_induction messageFrom (σ := σ) front held with
  | case1 front held ih₁ ih₂ =>
    refine hears_bind m (hears_readExact m _ _) ?_ ?_
    · intro t short
      exact started_last below (withinRecord_header (Nat.le_of_lt short))
    · rintro _ header ⟨rfl, length⟩
      split
      · refine hears_fail m _ ?_
        rw [List.append_nil]
        exact started_last below (withinRecord_header (Nat.le_of_eq length))
      · next n positive announces =>
        refine hears_bind m (hears_readExact m _ _) ?_ ?_
        · intro t short
          exact started_last below (withinRecord_front announces (Nat.le_of_lt short))
        · rintro _ fragment ⟨rfl, length'⟩
          obtain ⟨major, minor, isHeader⟩ := Record.header_of_fragmentLength announces
          obtain ⟨valid, same⟩ := isHeader fragment length'
          have last : Started held (header ++ (fragment ++ [])) := by
            rw [List.append_nil]
            exact started_last below (withinRecord_front announces (Nat.le_of_eq length'))
          have more {t : Octets} (h : Started (held + n) t) :
              Started held (header ++ (fragment ++ t)) := by
            rw [← same, ← List.append_assoc]
            refine Started.behind valid ?_
            rw [show (Record.mk major minor fragment).fragment = fragment from rfl, length']
            exact h
          dsimp only
          split
          · next short =>
            have below' : held + n < maxMessage := Nat.lt_trans short (by decide)
            exact (ih₁ n positive fragment short below').imp (fun _ _ => more) fun _ => more
          · next long =>
            split
            · exact hears_fail m _ last
            · next small =>
              split
              · next short =>
                have below' : held + n < maxMessage := Nat.lt_of_lt_of_le short (Nat.not_lt.1 small)
                exact (ih₂ n positive fragment long small short below').imp (fun _ _ => more)
                  fun _ => more
              · exact hears_pure m last

/-! ## How much that is -/

theorem length_withinRecord {t : Octets} (h : WithinRecord t) :
    t.length ≤ recordHeaderLength + maxFragment := by
  rcases h with short | ⟨r, valid, front⟩
  · exact Nat.le_trans short (Nat.le_add_right _ _)
  · refine Nat.le_trans front.length_le ?_
    rw [Record.octets, List.length_append, r.length_header]
    exact Nat.add_le_add_left valid.2 _

theorem length_records {records : List Record} (valid : ∀ r ∈ records, r.Valid) :
    records.length ≤ (records.flatMap Record.fragment).length ∧
      (octetsOf records).length = recordHeaderLength * records.length +
        (records.flatMap Record.fragment).length := by
  induction records with
  | nil => exact ⟨Nat.le_refl 0, rfl⟩
  | cons r records ih =>
    obtain ⟨few, octets⟩ := ih fun r' mem => valid r' (List.mem_cons_of_mem _ mem)
    have filled := (valid r List.mem_cons_self).1
    rw [octetsOf] at octets ⊢
    simp only [List.flatMap_cons, List.length_append, List.length_cons, Record.octets,
      r.length_header, octets, Nat.mul_succ]
    omega

/-- No record is empty, so there are fewer records than octets in the longest message. -/
theorem Unfinished.bounds {held : Nat} {records : List Record} {last : Octets}
    (h : Unfinished held records last) : records.length + 1 ≤ maxMessage ∧
      (octetsOf records ++ last).length ≤
        (recordHeaderLength + 1) * (maxMessage - 1) + (recordHeaderLength + maxFragment) := by
  obtain ⟨few, octets⟩ := length_records h.valid
  have below := h.below
  have short := length_withinRecord h.last
  rw [List.length_append, octets]
  simp only [maxMessage, recordHeaderLength, maxFragment] at *
  omega

end Tls

namespace Http

open Session

variable {σ : Type} [Readable σ] {took : Octets → σ → σ → Prop} {stuck : σ → Prop}

/-! ## Request heads -/

/-- Whatever the reader of a head comes to, it has taken one read at most beyond the limit; if it
has found a head, it has taken less than one read beyond its end. -/
theorem hears_readHeadFrom (m : Metered took stuck) (front : Array UInt8)
    (undecided : Head.parse front.toList = .ok none) (below : front.size < maxHead) :
    Hears took stuck (readHeadFrom (σ := σ) front)
      (fun t head => front.size + t.length < maxHead + readRoom ∧
        front.size + t.length < head.length + readRoom)
      fun t => front.size + t.length < maxHead + readRoom := by
  fun_induction readHeadFrom (σ := σ) front with
  | case1 front ih =>
    have nothing : front.size + ([] : Octets).length < maxHead + readRoom :=
      Nat.lt_of_lt_of_le below (Nat.le_add_right _ _)
    refine hears_bind m (hears_read m _ _) ?_ ?_
    · rintro t rfl
      exact nothing
    · rintro _ octets ⟨rfl, short⟩
      cases octets with
      | nil => exact hears_fail m _ nothing
      | cons b more =>
        have size := size_append front b more
        have octets : (front ++ b :: more).toList = front.toList ++ b :: more :=
          Array.toList_appendList
        rw [List.length_cons] at short
        dsimp only
        split
        · refine hears_fail m _ ?_
          rw [List.append_nil, List.length_cons]
          omega
        · next head found =>
          rw [octets] at found
          have inside := length_of_undecided undecided found
          rw [Array.length_toList] at inside
          refine hears_pure m ?_
          rw [List.append_nil, List.length_cons]
          omega
        · next undecided' =>
          split
          · refine hears_fail m _ ?_
            rw [List.append_nil, List.length_cons]
            omega
          · next below' =>
            have further (t : Octets) : front.size + (b :: more ++ t).length =
                (front ++ b :: more).size + t.length := by
              rw [size, List.length_append, List.length_cons]
              omega
            simp only [further]
            exact ih b more below' undecided' (Nat.lt_of_not_le below')

end Http

end Sluice
