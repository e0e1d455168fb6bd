import Sluice.Proofs.WrittenHeads

/-
  How long a request head may get. Whether too much has been read is asked after a read that did
  not complete the head, so what counts is where the read before the last one stopped: a head is
  taken just if that was below the limit (`httpHead_limit`). A head can thus exceed the limit by
  almost one read. It does where reads do not end on the limit, as behind an octet that was looked
  at alone (`oversize_taken`).
-/

namespace Sluice

open Octets Session

namespace Http

variable {σ : Type} [Readable σ]

/-- How many octets are there before the read that brings the `n`-th; `front` are there already. -/
def readBefore (n front : Nat) (s : σ) : Nat :=
  match Readable.read readRoom s with
  | (.ready (_ :: more), s') =>
    if n ≤ front + (more.length + 1) then front else readBefore n (front + (more.length + 1)) s'
  | _ => front
termination_by n - front

theorem readBefore_arrived {n front : Nat} {s s' : σ} {b : UInt8} {more : Octets}
    (arrived : Readable.read readRoom s = (.ready (b :: more), s')) :
    readBefore n front s = if n ≤ front + (more.length + 1) then front
      else readBefore n (front + (more.length + 1)) s' := by
  rw [readBefore, arrived]

theorem le_readBefore (n front : Nat) (s : σ) : front ≤ readBefore n front s := by
  fun_induction readBefore n front s with
  | case1 => exact Nat.le_refl _
  | case2 front s b more s' _ _ ih => exact Nat.le_trans (Nat.le_add_right _ _) ih
  | case3 => exact Nat.le_refl _

variable [Wire σ]

theorem size_append (front : Array UInt8) (b : UInt8) (more : Octets) :
    (front ++ (b :: more)).size = front.size + (more.length + 1) := by
  rw [← Array.length_toList, Array.toList_appendList, List.length_append]
  rfl

/-- A head that is taken exceeds the limit by less than one read. -/
theorem length_readHeadFrom {front : Array UInt8} {s : σ} {head : Head}
    (below : front.size < maxHead) (done : (readHeadFrom front s).1 = .done head) :
    head.length < maxHead + readRoom := by
  induction room : maxHead - front.size using Nat.strongRecOn generalizing front s with
  | ind n ih =>
    rcases Wire.read_cases (show 0 < readRoom by decide) s with
      ⟨b, more, s', read, short, -, -⟩ | ⟨-, ends⟩
    · have size := size_append front b more
      rcases readHeadFrom_arrived front read with ⟨verdict, told, is⟩ | ⟨-, is⟩
      · rw [is] at done
        cases verdict with
        | error f => cases done
        | ok head' =>
          obtain rfl := Outcome.done.inj done
          have := length_parse told
          rw [Array.length_toList] at this
          omega
      · rw [is] at done
        split at done
        · cases done
        · next below' => exact ih _ (by omega) (Nat.lt_of_not_le below') done rfl
    · rcases readHeadFrom_ended front ends with ⟨-, is⟩ | ⟨-, open'⟩
      · rw [is] at done
        cases done
      · exact absurd done (open' head)

/-- No shorter front of a head is judged. -/
theorem parse_front {whole t : Octets} {head : Head} (told : Head.parse whole = .ok (some head))
    (paired : Paired whole) (exact : head.length = whole.length) (front : t <+: whole)
    (short : t.length < whole.length) : Head.parse t = .ok none := by
  obtain ⟨more, rfl⟩ := front
  refine Classical.byContradiction fun judged => ?_
  have same := parse_append judged (Or.inl paired.front) more
  have := length_parse (same.symm.trans told)
  omega

/-- A head is taken just if the read that completes it starts below the limit. -/
theorem readHeadFrom_limit {whole : Octets} {head : Head}
    (told : Head.parse whole = .ok (some head)) (paired : Paired whole)
    (exact : head.length = whole.length) (front : Array UInt8) (s : σ)
    (inside : front.size < whole.length) (below : front.size < maxHead)
    (arrives : whole <+: front.toList ++ Wire.yield s) :
    (readHeadFrom front s).1 = if readBefore whole.length front.size s < maxHead then .done head
      else .failed (.http HeadFault.tooLong.message) := by
  induction missing : whole.length - front.size using Nat.strongRecOn generalizing front s with
  | ind n ih =>
    rcases Wire.read_cases (show 0 < readRoom by decide) s with
      ⟨b, more, s', read, -, yields, -⟩ | ⟨nothing, -⟩
    · have size := size_append front b more
      have stream : front.toList ++ Wire.yield s =
          (front ++ (b :: more)).toList ++ Wire.yield s' := by
        rw [yields, Array.toList_appendList, List.append_assoc]
      rw [stream] at arrives
      have front' := List.prefix_append (front ++ (b :: more)).toList (Wire.yield s')
      rw [readBefore_arrived read, ← size]
      by_cases long : whole.length ≤ (front ++ (b :: more)).size
      · obtain ⟨rest, holds⟩ := List.prefix_of_prefix_length_le arrives front' long
        have judged : Head.parse (front ++ (b :: more)).toList = .ok (some head) := by
          rw [← holds, parse_append (by simp [told]) (Or.inl paired), told]
        rw [if_pos long, if_pos below]
        rcases readHeadFrom_arrived front read with ⟨verdict, told', is⟩ | ⟨undecided, -⟩
        · rw [is, Tells.unique told' (show Tells _ (.ok head) from judged)]
          rfl
        · rw [judged] at undecided
          cases undecided
      · have short := Nat.lt_of_not_le long
        have inside' : (front ++ (b :: more)).toList <+: whole :=
          List.prefix_of_prefix_length_le front' arrives (Nat.le_of_lt short)
        have undecided := parse_front told paired exact inside' short
        rw [if_neg long]
        rcases readHeadFrom_arrived front read with ⟨verdict, told', -⟩ | ⟨-, is⟩
        · exact absurd undecided told'.ne_none
        · rw [is]
          split
          · next beyond =>
            have := le_readBefore whole.length (front ++ (b :: more)).size s'
            rw [if_neg (by omega)]
          · next below' => exact ih _ (by omega) _ _ short (Nat.lt_of_not_le below') arrives rfl
    · have := arrives.length_le
      rw [nothing, List.append_nil] at this
      exact absurd this (Nat.not_le.2 inside)

end Http

namespace Sniff

open Http

variable {σ : Type} [Readable σ] [Wire σ]

theorem gives_httpHead : Session.Gives (httpHead (σ := σ)) fun found =>
    found.value.length < maxHead + readRoom :=
  gives_peeking fun _ _ done => length_readHeadFrom (by decide) done

theorem gives_sniff : Session.Gives (sniff (σ := σ)) fun s =>
    ∀ found, s = .head found → found.value.length < maxHead + readRoom := by
  refine Session.gives_bind (Session.gives_all _) fun found _ => ?_
  split
  · exact Session.gives_bind (Session.gives_all _) fun _ _ => Session.gives_pure nofun
  · refine Session.gives_bind gives_httpHead fun head short => ?_
    refine Session.gives_pure fun found same => ?_
    rw [← Sighting.head.inj same]
    exact short

/-- A head at the front of a stream is found if the read that completes it starts below the limit;
if not, it is refused for its length. -/
theorem httpHead_taken {r : Replay} {h : Octets} {head : Head}
    (told : Head.parse h = .ok (some head)) (exact : head.length = h.length) (paired : Paired h)
    (arrives : h <+: r.yield) : (httpHead r).1.map (fun found => found.value) =
      if readBefore h.length 0 (Peek.start r) < maxHead then .done head
      else .failed (.http HeadFault.tooLong.message) := by
  have filled : 0 < h.length := by
    refine List.length_pos_iff.2 fun nothing => ?_
    rw [nothing, parse_nil] at told
    cases told
  have reads := readHeadFrom_limit told paired exact #[] (Peek.start r) filled (by decide) arrives
  have size : (#[] : Array UInt8).size = 0 := rfl
  rw [size] at reads
  simp only [httpHead, peeking, readHead, reads]
  split <;> rfl

/-- Where the first octet is none of TLS, what is sniffed is a request head. -/
theorem sniff_plain {r s : Replay} {n : Nat} (looked : classify r = (.done ⟨.plain, n⟩, s)) :
    (sniff r).1 = (httpHead s).1.map .head := by
  rw [sniff, Session.bind_done looked]
  show (Session.bind httpHead (fun head => pure (Sighting.head head)) s).1 = _
  unfold Session.bind
  rcases httpHead s with ⟨outcome, _⟩
  cases outcome <;> rfl

/-- A head that is found exceeds the limit by less than one read, however the stream is cut into
held octets and reads, and whatever was looked at before. A head at the front of the stream is found
if the read that completes it starts below the limit; if not, it is refused for its length. -/
theorem httpHead_limit (r : Replay) :
    (∀ found, (httpHead r).1 = .done found → found.value.length < maxHead + readRoom) ∧
    (∀ found, (sniff r).1 = .done (.head found) → found.value.length < maxHead + readRoom) ∧
    ∀ h head, Head.parse h = .ok (some head) → head.length = h.length → Paired h →
      h <+: r.yield → (httpHead r).1.map (fun found => found.value) =
        if readBefore h.length 0 (Peek.start r) < maxHead then .done head
        else .failed (.http HeadFault.tooLong.message) :=
  ⟨fun found done => gives_httpHead r found done,
    fun found done => gives_sniff r _ done found rfl,
    fun _ _ told exact paired arrives => httpHead_taken told exact paired arrives⟩

theorem httpHead_limit_plain :
    ∃ found, (httpHead plainRequestStream).1 = .done found ∧
      (sniff plainRequestStream).1 = .done (.head found) ∧
      found.value = ⟨30, "GET", some "a"⟩ ∧ found.value.length < maxHead + readRoom := by
  obtain ⟨bounded, bounded', taken⟩ := httpHead_limit plainRequestStream
  have judged : Head.parse plainRequest = .ok (some ⟨30, "GET", some "a"⟩) := by decide +kernel
  have front : plainRequest <+: plainRequestStream.yield := by decide +kernel
  have stands : readBefore 30 0 (Peek.start plainRequestStream) = 15 := by decide +kernel
  have length : plainRequest.length = 30 := by decide
  have taken := taken plainRequest _ judged length.symm (by decide +kernel) front
  rw [length, stands, if_pos (by decide)] at taken
  obtain ⟨found, is, value⟩ := Outcome.map_eq_done.1 taken
  have sniffed : (sniff plainRequestStream).1 = .done (.head found) := by
    have looked : classify plainRequestStream = (.done ⟨.plain, 1⟩, plainRequestStream) := by
      decide +kernel
    rw [sniff_plain looked, is]
    rfl
  exact ⟨found, is, sniffed, value, bounded' found sniffed⟩

/-! ## A head beyond the limit -/

/-- A request with one field of so many octets. -/
def padded (n : Nat) : Request :=
  { method := ofText "GET", target := "/", minorVersion := 1
    fields := [⟨ofText "X", List.replicate n 120⟩] }

theorem padded_legal (n : Nat) : (padded n).Legal where
  named := show ofText "GET" ≠ [] by decide
  method := show ∀ b ∈ ofText "GET", isToken b = true from List.all_eq_true.1 (by decide)
  aimed := show "/" ≠ "" by decide
  target := show Visible "/" by decide
  version := Nat.le_refl 1
  fields := by
    intro f mem
    obtain rfl := List.mem_singleton.1 mem
    refine ⟨show ofText "X" ≠ [] by decide,
      show ∀ b ∈ ofText "X", isToken b = true from List.all_eq_true.1 (by decide), fun b mem => ?_⟩
    rw [List.eq_of_mem_replicate mem]
    decide

theorem length_padded (n : Nat) : (padded n).lines.length = n + 22 := by
  have method : (ofText "GET").length = 3 := by decide
  have target : (ofText "/").length = 1 := by decide
  have version : (ofText "HTTP/1.").length = 7 := by decide
  have name : (ofText "X").length = 1 := by decide
  have lineBreak : lineBreak.length = 2 := rfl
  simp only [Request.lines, padded, Field.line, List.flatMap_cons, List.flatMap_nil,
    List.length_append, List.length_cons, List.length_nil, List.length_replicate, method, target,
    version, name, lineBreak]
  omega

/-- Octets that arrive at once are read by so many. -/
theorem readBefore_data {n front : Nat} (t : Octets) (recorded : Array UInt8)
    (inside : front < n) (enough : n ≤ front + t.length) :
    readBefore n front (⟨{ source := [.data t] }, recorded⟩ : Peek) =
      front + readRoom * ((n - 1 - front) / readRoom) := by
  induction missing : n - front using Nat.strongRecOn generalizing front t recorded with
  | ind m ih =>
    cases t with
    | nil => exact absurd enough (Nat.not_le.2 inside)
    | cons b t =>
      have arrived : Readable.read readRoom (⟨{ source := [.data (b :: t)] }, recorded⟩ : Peek) =
          (.ready (b :: t.take 4095),
            ⟨{ source := [.data (t.drop 4095)] }, recorded ++ (b :: t.take 4095)⟩) := rfl
      rw [readBefore_arrived arrived, List.length_take]
      rw [List.length_cons] at enough
      simp only [readRoom] at ih ⊢
      split
      · omega
      · have rest : (t.drop 4095).length = t.length - 4095 := List.length_drop
        rw [ih _ (by omega) (t.drop 4095) _ (by omega) (by omega) rfl]
        omega

theorem parse_padded (n : Nat) :
    Head.parse (padded n).lines = .ok (some ⟨n + 22, "GET", none⟩) := by
  have target : hostOfTarget (padded n).trimmed = .ok none := by
    show (if ofText "GET" == ofText "CONNECT" then _
      else if isAbsolute "/".toList then _ else _) = _
    rw [if_neg (by decide), if_neg (by decide)]
  have fields : hostOfFields (padded n).trimmed.fields = .ok none := by
    have other : sameLetters (ofText "X") (ofText "host") = false := by decide
    simp [hostOfFields, padded, Request.trimmed, Field.trimmed, other]
  have host : hostOf (padded n).trimmed = .ok none := by
    rw [hostOf, target]
    exact fields
  have told := tells_lines (padded_legal n)
  rw [Tells, Request.verdict, host, length_padded] at told
  exact told

/-- A head of one octet more than the limit that arrives at once is found behind a look at its first
octet. -/
theorem oversize_taken :
    ∃ found, (sniff ({ source := [.data (padded 65515).lines] } : Replay)).1 =
      .done (.head found) ∧ found.value.length = maxHead + 1 := by
  obtain ⟨t, octets⟩ : ∃ t, (padded 65515).lines = 71 :: t := ⟨_, rfl⟩
  have length : (padded 65515).lines.length = 65537 := length_padded 65515
  have told := parse_padded 65515
  have paired := paired_lines (padded_legal 65515)
  rw [octets] at length told paired
  rw [octets, sniff_plain (s := { held := [71], source := [.data t] }) rfl]
  have taken := httpHead_taken (r := { held := [71], source := [.data t] }) told length.symm paired
    ⟨[], by simp [Replay.yield, Source.yield]⟩
  have looked : Readable.read readRoom
      (Peek.start { held := [71], source := [.data t] } : Peek) =
      (.ready [71], ⟨{ source := [.data t] }, #[71]⟩) := rfl
  have stands : readBefore 65537 0 (Peek.start { held := [71], source := [.data t] } : Peek) =
      61441 := by
    rw [readBefore_arrived looked, if_neg (by decide)]
    exact readBefore_data t #[71] (by decide) (by rw [List.length_cons] at length; omega)
  rw [length, stands, if_pos (by decide)] at taken
  obtain ⟨found, is, value⟩ := Outcome.map_eq_done.1 taken
  refine ⟨found, ?_, ?_⟩
  · rw [is]
    rfl
  · rw [value]
    rfl

end Sniff

end Sluice
