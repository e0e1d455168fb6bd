import Sluice.Proofs.Exchange
import Sluice.Proofs.Sniffing

/-
  Putting a handshake message together. A message is carried by the records whose fragments hold it
  and of which the last completes it (`Carries`). What reads it takes just these records, however
  they are cut and however they arrive: `obeys_messageFrom` by the recursion of `messageFrom`, whose
  invariant is that the octets already there are fewer than any message that starts like this
  (`Wanting`).
-/

namespace Sluice.Tls

open Session Sniff

/-! ## Records -/

/-- A handshake record; nobody looks at its version. -/
structure Record where
  major : UInt8
  minor : UInt8
  fragment : Octets
  deriving DecidableEq, Repr

namespace Record

/-- What stands in front of the fragment. -/
def header (r : Record) : Octets :=
  [0x16, r.major, r.minor] ++ Octets.ofNat 2 r.fragment.length

/-- The octets of a record. -/
def octets (r : Record) : Octets :=
  r.header ++ r.fragment

/-- Is the fragment neither empty nor too long? -/
def Valid (r : Record) : Prop :=
  1 ≤ r.fragment.length ∧ r.fragment.length ≤ 18432

instance (r : Record) : Decidable r.Valid :=
  inferInstanceAs (Decidable (_ ∧ _))

theorem length_header (r : Record) : r.header.length = recordHeaderLength := by
  rw [header, List.length_append, Octets.length_ofNat]
  rfl

theorem fragmentLength_header {r : Record} (valid : r.Valid) :
    fragmentLength r.header = .ok ⟨r.fragment.length, valid.1⟩ := by
  obtain ⟨_, long⟩ := valid
  have value : Octets.toNat (Octets.ofNat 2 r.fragment.length) = r.fragment.length :=
    Octets.toNat_ofNat 2 _ (Nat.lt_of_le_of_lt long (by decide))
  obtain ⟨high, low, number⟩ :
    ∃ high low, Octets.ofNat 2 r.fragment.length = [high, low] := ⟨_, _, rfl⟩
  rw [number] at value
  have inside : ¬ (Octets.toNat [high, low] = 0 ∨ maxFragment < Octets.toNat [high, low]) := by
    rw [value, maxFragment]
    omega
  rw [header, number]
  unfold fragmentLength
  simp only [List.cons_append, List.nil_append, handshakeRecord, ne_eq, not_true_eq_false, if_false]
  rw [dif_neg inside]
  simp only [value]

/-- A header that announces a length is the one of a record with a fragment so long. -/
theorem header_of_fragmentLength {h : Octets} {n : { n : Nat // 0 < n }}
    (announces : fragmentLength h = .ok n) : ∃ major minor,
      ∀ fragment : Octets, fragment.length = n →
        (⟨major, minor, fragment⟩ : Record).Valid ∧
        (⟨major, minor, fragment⟩ : Record).header = h := by
  unfold fragmentLength at announces
  split at announces
  · next type major minor high low =>
    dsimp only at announces
    split at announces
    · cases announces
    · next handshake =>
      split at announces
      · cases announces
      · next inside =>
        obtain rfl := Except.ok.inj announces
        refine ⟨major, minor, fun fragment length => ?_⟩
        dsimp only at length
        rw [maxFragment] at inside
        refine ⟨by rw [Valid, length]; omega, ?_⟩
        have number : Octets.ofNat 2 (Octets.toNat [high, low]) = [high, low] :=
          Octets.ofNat_toNat [high, low]
        rw [header, length, number, not_not.1 handshake]
        rfl
  · cases announces

end Record

/-! ## Messages in records -/

/-- The length of the handshake message that these octets start, its header included. -/
def announced (front : Octets) : Nat :=
  4 + Octets.toNat ((front.drop 1).take 3)

/-- Do these records carry the rest of the message that `front` starts? Without the last of them it
is not yet complete; behind its end that one may hold more. -/
structure Carries (front : Octets) (records : List Record) (message : Octets) : Prop where
  notNone : records ≠ []
  valid : ∀ r ∈ records, r.Valid
  complete : announced (front ++ records.flatMap Record.fragment) ≤
    (front ++ records.flatMap Record.fragment).length
  lastNeeded : (front ++ records.dropLast.flatMap Record.fragment).length <
    announced (front ++ records.flatMap Record.fragment)
  bounded : announced (front ++ records.flatMap Record.fragment) ≤ 65536
  message : message = (front ++ records.flatMap Record.fragment).take
    (announced (front ++ records.flatMap Record.fragment))

theorem announced_append {front : Octets} (header : 4 ≤ front.length) (more : Octets) :
    announced (front ++ more) = announced front := by
  unfold announced
  rw [List.drop_append_of_le_length (by omega),
    List.take_append_of_le_length (by rw [List.length_drop]; omega)]

/-- Is the message incomplete, whatever follows? -/
def Wanting (front : Octets) : Prop :=
  ∀ more, front.length < announced (front ++ more)

theorem wanting_of_short {front : Octets} (short : front.length < 4) : Wanting front := by
  intro more
  rw [announced]
  omega

theorem wanting_of_header {front : Octets} (header : 4 ≤ front.length)
    (short : front.length < announced front) : Wanting front := by
  intro more
  rw [announced_append header]
  exact short

/-- The first of the records may be what completes the message. -/
theorem carries_last {front : Octets} {r : Record} {message : Octets} (wanting : Wanting front) :
    Carries front [r] message ↔ r.Valid ∧
      announced (front ++ r.fragment) ≤ (front ++ r.fragment).length ∧
      announced (front ++ r.fragment) ≤ 65536 ∧
      message = (front ++ r.fragment).take (announced (front ++ r.fragment)) := by
  have fragments : [r].flatMap Record.fragment = r.fragment := List.flatMap_singleton _ _
  constructor
  · rintro ⟨-, valid, complete, -, bounded, message⟩
    rw [fragments] at complete bounded message
    exact ⟨valid r (List.mem_singleton_self r), complete, bounded, message⟩
  · rintro ⟨valid, complete, bounded, message⟩
    rw [← fragments] at complete bounded message
    refine ⟨List.cons_ne_nil _ _, by simpa using valid, complete, ?_, bounded, message⟩
    simpa using wanting ([r].flatMap Record.fragment)

theorem carries_more {front : Octets} {r r' : Record} {records : List Record} {message : Octets} :
    Carries front (r :: r' :: records) message ↔
      r.Valid ∧ Carries (front ++ r.fragment) (r' :: records) message := by
  have fragments : front ++ (r :: r' :: records).flatMap Record.fragment =
      front ++ r.fragment ++ (r' :: records).flatMap Record.fragment := by
    rw [List.flatMap_cons, List.append_assoc]
  have before : front ++ (r :: r' :: records).dropLast.flatMap Record.fragment =
      front ++ r.fragment ++ (r' :: records).dropLast.flatMap Record.fragment := by
    rw [List.dropLast_cons_cons, List.flatMap_cons, List.append_assoc]
  constructor
  · rintro ⟨-, valid, complete, last, bounded, message⟩
    rw [fragments] at complete last bounded message
    rw [before] at last
    exact ⟨valid r List.mem_cons_self, List.cons_ne_nil _ _,
      fun s member => valid s (List.mem_cons_of_mem r member), complete, last, bounded, message⟩
  · rintro ⟨first, -, valid, complete, last, bounded, message⟩
    rw [← fragments] at complete last bounded message
    rw [← before] at last
    refine ⟨List.cons_ne_nil _ _, fun s member => ?_, complete, last, bounded, message⟩
    rcases List.mem_cons.1 member with rfl | member
    · exact first
    · exact valid s member

/-- Where more records are needed, the octets already there want more. -/
theorem Carries.short {front : Octets} {records : List Record} {message : Octets}
    (h : Carries front records message) (header : 4 ≤ front.length) :
    front.length < announced front ∧ announced front ≤ 65536 := by
  have last := h.lastNeeded
  have bounded := h.bounded
  rw [announced_append header] at last bounded
  rw [List.length_append] at last
  omega

/-! ## Reading a message -/

/-- The octets of records, one behind the other. -/
def octetsOf (records : List Record) : Octets :=
  records.flatMap Record.octets

/-- Records are heard that carry the message, and nothing is said. -/
def Handshake (front : Octets) : Exchange Octets :=
  fun heard said message =>
    said = [] ∧ ∃ records, Carries front records message ∧ heard = octetsOf records

/-- What is heard is a header, a fragment, and the octets of the other records. -/
theorem handshake_header {front heard said message : Octets}
    (h : Handshake front heard said message) :
    ∃ (r : Record) (behind : Octets), r.Valid ∧ heard = r.header ++ (r.fragment ++ behind) := by
  obtain ⟨-, records, carries, rfl⟩ := h
  cases records with
  | nil => exact absurd rfl carries.notNone
  | cons r records =>
    refine ⟨r, octetsOf records, carries.valid r List.mem_cons_self, ?_⟩
    rw [octetsOf, List.flatMap_cons, Record.octets, List.append_assoc]
    rfl

/-- The header announces no more octets than are heard behind it. -/
theorem handshake_announces {front h behind said message : Octets}
    (length : h.length = recordHeaderLength) (heard : Handshake front (h ++ behind) said message) :
    ∃ n, fragmentLength h = .ok n ∧ n ≤ behind.length := by
  obtain ⟨r, behind', valid, octets⟩ := handshake_header heard
  obtain ⟨rfl, rfl⟩ := List.append_inj octets (length.trans r.length_header.symm)
  exact ⟨_, Record.fragmentLength_header valid, (List.prefix_append _ _).length_le⟩

theorem handshake_record {front behind said message : Octets} {r : Record} (valid : r.Valid) :
    Handshake front (r.header ++ (r.fragment ++ behind)) said message ↔
      said = [] ∧ ∃ records, Carries front (r :: records) message ∧ behind = octetsOf records := by
  refine and_congr_right fun _ => ⟨?_, ?_⟩
  · rintro ⟨records, carries, heard⟩
    cases records with
    | nil => exact absurd rfl carries.notNone
    | cons s records =>
      rw [octetsOf, List.flatMap_cons, Record.octets, List.append_assoc] at heard
      obtain ⟨headers, heard⟩ := List.append_inj heard
        (r.length_header.trans s.length_header.symm)
      have lengths := Record.fragmentLength_header valid
      rw [headers, Record.fragmentLength_header (carries.valid s List.mem_cons_self)] at lengths
      obtain ⟨fragments, heard⟩ := List.append_inj heard
        (congrArg Subtype.val (Except.ok.inj lengths)).symm
      have same : r = s := by
        rcases r with ⟨major, minor, fragment⟩
        rcases s with ⟨major', minor', fragment'⟩
        obtain rfl : fragment = fragment' := fragments
        simp only [Record.header, List.cons_append, List.nil_append, List.cons.injEq] at headers
        rw [headers.2.1, headers.2.2.1]
      exact ⟨records, same ▸ carries, heard⟩
  · rintro ⟨records, carries, rfl⟩
    refine ⟨r :: records, carries, ?_⟩
    rw [octetsOf, octetsOf, List.flatMap_cons, Record.octets, List.append_assoc]

theorem messageLength_eq {front : Array UInt8} (header : 4 ≤ front.size) :
    messageLength front = announced front.toList := by
  rcases front with ⟨front⟩
  match front, header with
  | a :: b :: c :: d :: front, _ => rfl

/-- No record follows the one that completes the message. -/
theorem handshake_last {front behind said message : Octets} {r : Record} (wanting : Wanting front)
    (valid : r.Valid)
    (complete : announced (front ++ r.fragment) ≤ (front ++ r.fragment).length)
    (bounded : announced (front ++ r.fragment) ≤ 65536) :
    Handshake front (r.header ++ (r.fragment ++ behind)) said message ↔
      behind = [] ∧ said = [] ∧
        message = (front ++ r.fragment).take (announced (front ++ r.fragment)) := by
  rw [handshake_record valid, and_left_comm]
  refine and_congr_right fun _ => ⟨?_, ?_⟩
  · rintro ⟨records, carries, rfl⟩
    cases records with
    | nil => exact ⟨rfl, ((carries_last wanting).1 carries).2.2.2⟩
    | cons r' records =>
      have header : 4 ≤ (front ++ r.fragment).length :=
        Nat.le_trans (Nat.le_add_right 4 _) complete
      exact absurd ((carries_more.1 carries).2.short header).1 (Nat.not_lt.2 complete)
  · rintro ⟨rfl, rfl⟩
    exact ⟨[], (carries_last wanting).2 ⟨valid, complete, bounded, rfl⟩, rfl⟩

/-- No records carry a message that is too long. -/
theorem handshake_bounded {front behind said message : Octets} {r : Record}
    (wanting : Wanting front) (valid : r.Valid) (header : 4 ≤ (front ++ r.fragment).length)
    (h : Handshake front (r.header ++ (r.fragment ++ behind)) said message) :
    announced (front ++ r.fragment) ≤ 65536 := by
  obtain ⟨-, records, carries, -⟩ := (handshake_record valid).1 h
  cases records with
  | nil => exact ((carries_last wanting).1 carries).2.2.1
  | cons r' records => exact ((carries_more.1 carries).2.short header).2

variable {σ : Type} [Readable σ] [Wire σ]

/-- What is read behind a fragment, in terms of the octets there are then. -/
theorem handshake_more {front behind said message : Octets} {r : Record} (valid : r.Valid)
    (incomplete : (front ++ r.fragment).length < announced (front ++ r.fragment)) :
    Handshake front (r.header ++ (r.fragment ++ behind)) said message ↔
      Handshake (front ++ r.fragment) behind said message := by
  rw [handshake_record valid]
  refine and_congr_right fun _ => exists_congr fun records => and_congr_left fun _ => ?_
  cases records with
  | nil =>
    refine ⟨fun h => ?_, fun h => absurd rfl h.notNone⟩
    have complete := h.complete
    rw [List.flatMap_singleton] at complete
    omega
  | cons r' records => exact carries_more.trans (and_iff_right valid)

/-- Whatever octets are there and however many are missing, reading records hears just those that
carry the message. -/
theorem obeys_messageFrom (front : Array UInt8) (held : Nat) (size : held = front.size)
    (wanting : Wanting front.toList) :
    Obeys (messageFrom (σ := σ) front held) (Handshake front.toList) (· = .eof) := by
  fun_induction messageFrom (σ := σ) front held with
  | case1 front held ih₁ ih₂ =>
    subst size
    refine obeys_bind_exact (obeys_readExact _ _ rfl) ?_ ?_
    · intro heard said message carries
      obtain ⟨r, behind, -, rfl⟩ := handshake_header carries
      rw [← r.length_header]
      exact (List.prefix_append _ _).length_le
    · intro h headerLength
      split
      · next f refused =>
        refine obeys_fail (fun heard said message carries => ?_) _
        obtain ⟨n, announces, -⟩ := handshake_announces headerLength carries
        rw [announces] at refused
        cases refused
      · next n positive announces =>
        obtain ⟨major, minor, isHeader⟩ := Record.header_of_fragmentLength announces
        refine obeys_bind_exact (obeys_readExact _ _ rfl) ?_ ?_
        · intro heard said message carries
          obtain ⟨n', announces', enough⟩ := handshake_announces headerLength carries
          rw [announces] at announces'
          obtain rfl := Except.ok.inj announces'
          exact enough
        · intro fragment fragmentLength
          obtain ⟨valid, rfl⟩ := isHeader fragment fragmentLength
          have octets : (front ++ fragment).toList = front.toList ++ fragment :=
            Array.toList_appendList
          have size : front.size + n = (front.toList ++ fragment).length := by
            rw [List.length_append, fragmentLength]
            rfl
          have size' : front.size + n = (front ++ fragment).size := by
            rw [size, ← octets]
            rfl
          dsimp only
          split
          · next short =>
            have incomplete : (front.toList ++ fragment).length < 4 := size ▸ short
            refine (ih₁ n positive fragment short size' ?_).congr fun heard said message => ?_
            · rw [octets]
              exact wanting_of_short incomplete
            · rw [octets]
              exact handshake_more valid (Nat.lt_of_lt_of_le incomplete (Nat.le_add_right 4 _))
          · next long =>
            have header : 4 ≤ (front.toList ++ fragment).length := size ▸ Nat.not_lt.1 long
            have total :
                messageLength (front ++ fragment) = announced (front.toList ++ fragment) := by
              rw [messageLength_eq (size' ▸ Nat.not_lt.1 long), octets]
            split
            · next large =>
              rw [total] at large
              refine obeys_fail (fun heard said message carries => ?_) _
              exact absurd (handshake_bounded wanting valid header carries) (Nat.not_le.2 large)
            · next small =>
              split
              · next short =>
                have incomplete :
                    (front.toList ++ fragment).length < announced (front.toList ++ fragment) := by
                  rw [← size, ← total]
                  exact short
                refine (ih₂ n positive fragment long small short size' ?_).congr
                  fun heard said message => ?_
                · rw [octets]
                  exact wanting_of_header header incomplete
                · rw [octets]
                  exact handshake_more valid incomplete
              · next complete =>
                rw [total] at small
                rw [size, total] at complete
                refine (obeys_pure _).congr fun heard said message => ?_
                rw [total, Array.toList_extract, octets]
                exact handshake_last wanting valid (Nat.not_lt.1 complete) (Nat.not_lt.1 small)

/-- Reading the first message takes just the records that carry it. -/
theorem obeys_readMessage : Obeys (readMessage (σ := σ)) (Handshake []) (· = .eof) :=
  obeys_messageFrom #[] 0 rfl (wanting_of_short (by decide))

end Sluice.Tls

namespace Sluice.Sniff

open Session Tls

variable {σ ε α : Type} [Readable σ] [Wire σ]

/-! ## Through a peek -/

theorem obeys_muted {p : Session (ReadOnly σ) ε α} {P : Exchange α} {cut : ε → Prop}
    (h : Obeys p P cut) : Obeys (muted p) P cut where
  complete start front room := by
    obtain ⟨s', done, passed⟩ := h.complete start front room
    refine ⟨s'.inner, ?_, passed.yield, passed.unread, passed.ending, passed.said⟩
    simp only [muted, done]
  sound done := by
    obtain ⟨same, rfl⟩ := Prod.mk.inj done
    obtain ⟨heard, said, a, passed⟩ := h.sound (Prod.ext same rfl)
    exact ⟨heard, said, a, passed.yield, passed.unread, passed.ending, passed.said⟩
  breaks start off eof room := h.breaks start off eof room

/-- Behind a peek it is known how many octets were heard. -/
theorem consumed_of_passed {heard said : Octets} {r : Replay σ} {p : Peek σ}
    (keeps : p.unread = (Peek.start r).unread) (passed : Passed heard said (Peek.start r) p) :
    p.consumed = heard.length := by
  have unread : r.unread = heard ++ p.replay.unread := passed.unread
  rw [Peek.unread_start, Peek.unread, unread] at keeps
  exact congrArg List.length (List.append_cancel_right keeps)

theorem peeking_done_iff {p : Session (Peek σ) ε α} {P : Exchange α} {cut : ε → Prop}
    (keeps : Keeps Peek.unread p) (silent : ∀ {heard said a}, P heard said a → said = [])
    (h : Obeys p P cut) (r : Replay σ) (a : α) (n : Nat) :
    (peeking p r).1 = .done ⟨a, n⟩ ↔
      ∃ heard, P heard [] a ∧ heard <+: r.held ++ Wire.yield r.source ∧ n = heard.length := by
  have kept := keeps (Peek.start r)
  constructor
  · intro done
    rcases ended : p (Peek.start r) with ⟨outcome, p'⟩
    rw [ended] at kept
    simp only [peeking, ended] at done
    cases outcome with
    | done b =>
      obtain ⟨rfl, rfl⟩ := Found.mk.inj (Outcome.done.inj done)
      obtain ⟨heard, said, start, passed⟩ := h.sound ended
      obtain rfl := silent start
      exact ⟨heard, start, ⟨_, passed.yield.symm⟩, consumed_of_passed kept passed⟩
    | failed e => cases done
    | pending => cases done
  · rintro ⟨heard, start, front, rfl⟩
    obtain ⟨p', ended, passed⟩ := h.complete (s := Peek.start r) start front (Sink.hasRoom_nil _)
    rw [ended] at kept
    simp only [peeking, ended, Outcome.map, consumed_of_passed kept passed]

/-! ## A client's hello -/

/-- What a handshake message has to tell, and that so many octets were looked at for it. -/
def verdict (message : Octets) (consumed : Nat) : Outcome SniffError (Found ClientHello) :=
  match ClientHello.ofMessage message with
  | .ok hello => .done ⟨hello, consumed⟩
  | .error f => .failed (.clientHello f.message)

omit [Wire σ] in
/-- Once its message is there, a hello is what the message says. -/
theorem clientHello_of_message {r : Replay σ} {message : Octets} {n : Nat}
    (read : (peeking (muted readMessage) r).1 = .done ⟨message, n⟩) :
    (clientHello r).1 = verdict message n := by
  rcases ended : readMessage (⟨Peek.start r⟩ : ReadOnly (Peek σ)) with ⟨outcome, s⟩
  simp only [peeking, muted, ended] at read
  cases outcome with
  | failed e => cases read
  | pending => cases read
  | done m =>
    obtain ⟨rfl, rfl⟩ := Found.mk.inj (Outcome.done.inj read)
    simp only [clientHello, peeking, muted, readHello, bind_done ended, verdict]
    cases ClientHello.ofMessage m with
    | ok hello => rfl
    | error f => rfl

omit [Wire σ] in
theorem clientHello_of_failed {r : Replay σ} {e : SniffError}
    (read : (peeking (muted readMessage) r).1 = .failed e) : (clientHello r).1 = .failed e := by
  rcases ended : readMessage (⟨Peek.start r⟩ : ReadOnly (Peek σ)) with ⟨outcome, s⟩
  simp only [peeking, muted, ended] at read
  cases outcome with
  | done m => cases read
  | pending => cases read
  | failed e' =>
    obtain rfl := Outcome.failed.inj read
    simp only [clientHello, peeking, muted, readHello, bind_failed ended, Outcome.map]

theorem peeking_readMessage_iff (r : Replay σ) (message : Octets) (n : Nat) :
    (peeking (muted readMessage) r).1 = .done ⟨message, n⟩ ↔
      ∃ records, Carries [] records message ∧
        octetsOf records <+: r.held ++ Wire.yield r.source ∧ n = (octetsOf records).length := by
  have keeps : Keeps Peek.unread (muted (readMessage (σ := ReadOnly (Peek σ)))) :=
    keeps_muted (keeps_messageFrom (fun room s => Peek.unread_read room s.inner) _ _)
  rw [peeking_done_iff keeps And.left (obeys_muted obeys_readMessage)]
  constructor
  · rintro ⟨_, ⟨-, records, carries, rfl⟩, front, length⟩
    exact ⟨records, carries, front, length⟩
  · rintro ⟨records, carries, front, length⟩
    exact ⟨octetsOf records, ⟨rfl, records, carries, rfl⟩, front, length⟩

theorem peeking_readMessage_breaks {r : Replay σ} {records : List Record} {message : Octets}
    (carries : Carries [] records message)
    (off : BreaksOff (r.held ++ Wire.yield r.source) (octetsOf records))
    (eof : Wire.ending r.source = .eof) : (peeking (muted readMessage) r).1 = .failed .eof := by
  have start : Handshake [] (octetsOf records) [] message := ⟨rfl, records, carries, rfl⟩
  obtain ⟨e, failed, rfl⟩ :=
    (obeys_muted obeys_readMessage).breaks (s := Peek.start r) start off eof (Sink.hasRoom_nil _)
  simp only [peeking, failed, Outcome.map]

/-- However a stream is cut into held octets and reads: its first handshake message is read, and so
many octets looked at for it, just where the stream starts with records that carry the message and
are so long. The stage then tells what the message says; what the records are like and what follows
them makes no difference. If the stream ends inside the records, the stage fails for that. -/
theorem clientHello_reassembles (r : Replay) :
    (∀ message n, (peeking (muted readMessage) r).1 = .done ⟨message, n⟩ ↔
      ∃ records, Carries [] records message ∧ octetsOf records <+: r.yield ∧
        n = (octetsOf records).length) ∧
    (∀ records message, Carries [] records message → octetsOf records <+: r.yield →
      (clientHello r).1 = verdict message (octetsOf records).length) ∧
    (∀ records message, Carries [] records message → BreaksOff r.yield (octetsOf records) →
      r.ending = .eof →
      (peeking (muted readMessage) r).1 = .failed .eof ∧ (clientHello r).1 = .failed .eof) := by
  refine ⟨peeking_readMessage_iff r, fun records message carries front => ?_,
    fun records message carries off eof => ?_⟩
  · exact clientHello_of_message
      ((peeking_readMessage_iff r message _).2 ⟨records, carries, front, rfl⟩)
  · have read := peeking_readMessage_breaks carries off eof
    exact ⟨read, clientHello_of_failed read⟩

/-- A hello without extensions. -/
def plainHello : Octets :=
  [1, 0, 0, 41, 3, 3] ++ List.replicate 32 0 ++ [0, 0, 2, 0x13, 1, 1, 0]

/-- The hello in three records: two of them have less than its header, and the last has more than
its end. -/
def plainRecords : List Record :=
  [⟨3, 1, [1, 0]⟩, ⟨3, 3, [0]⟩, ⟨0, 0, plainHello.drop 3 ++ [11, 0]⟩]

/-- The records, partly held, and the rest in two reads. -/
def plainStream : Replay :=
  { held := (octetsOf plainRecords).take 4
    source := [.data ((octetsOf plainRecords).drop 4), .wait, .data [22]] }

/-- The records without their last octet. -/
def plainTorn : Replay :=
  { source := [.data (octetsOf plainRecords).dropLast] }

theorem clientHello_reassembles_plain :
    (clientHello plainStream).1 = .done ⟨{}, 62⟩ ∧ (clientHello plainTorn).1 = .failed .eof := by
  have carries : Carries [] plainRecords plainHello :=
    ⟨by decide, by decide, by decide, by decide, by decide, by decide⟩
  have front : octetsOf plainRecords <+: plainStream.yield := by decide
  have off : BreaksOff plainTorn.yield (octetsOf plainRecords) := ⟨by decide, by decide⟩
  have found : verdict plainHello (octetsOf plainRecords).length = .done ⟨{}, 62⟩ := by
    decide +kernel
  exact ⟨((clientHello_reassembles plainStream).2.1 _ _ carries front).trans found,
    ((clientHello_reassembles plainTorn).2.2 _ _ carries off rfl).2⟩

end Sluice.Sniff
