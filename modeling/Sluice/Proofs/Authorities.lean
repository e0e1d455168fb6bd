import Mathlib.Data.Bool.AllAny
import Mathlib.Data.List.TakeDrop
import Mathlib.Data.List.TakeWhile
import Sluice.Proofs.AddressTexts
import Sluice.Url.Basic

/-
  Where a URL is cut. Blanks are taken off the ends of a text and breaks out of it on either side of
  any visible character alike (`clean_cut`), the scheme ends before the first character that it may
  not hold (`readScheme_append`), and what stands before the last `@` says who signs in, what stands
  behind it where (`readAuthority_signed`, `readAuthority_unsigned`). So each part of a URL can be
  told by itself, with any text for the others.
-/

namespace Sluice.Url

/-! ## Cleaning -/

/-- Is this one of the blanks that are taken off the ends? -/
def isEdge (c : Char) : Bool :=
  decide (c.toNat ≤ 32)

/-- Is this neither a break nor a tab? -/
def isKept (c : Char) : Bool :=
  !"\t\n\r".contains c

/-- What is left of the front of a text. -/
def cleanFront (s : List Char) : List Char :=
  (s.dropWhile isEdge).filter isKept

/-- What is left of the end of a text. -/
def cleanBack (s : List Char) : List Char :=
  (s.reverse.dropWhile isEdge).reverse.filter isKept

theorem isKept_of_large {c : Char} (large : 32 < c.toNat) : isKept c = true := by
  have small : ∀ c ∈ "\t\n\r".toList, c.toNat ≤ 32 := List.all_iff_forall_prop.1 (by decide)
  rw [isKept, String.contains_char_eq, Bool.not_eq_true', decide_eq_false_iff_not]
  exact fun mem => Nat.not_lt.2 (small c mem) large

theorem isEdge_of_large {c : Char} (large : 32 < c.toNat) : isEdge c = false :=
  decide_eq_false (Nat.not_le.2 large)

theorem dropWhile_cut {p : Char → Bool} {c : Char} (stop : p c = false) (x y : List Char) :
    (x ++ c :: y).dropWhile p = x.dropWhile p ++ c :: y := by
  rw [List.dropWhile_append]
  split
  · next empty =>
    rw [List.isEmpty_iff.1 empty, List.dropWhile_cons_of_neg (by simp [stop]), List.nil_append]
  · rfl

theorem cleanBack_cut {x y : List Char} {c : Char} (large : 32 < c.toNat) :
    cleanBack (x ++ c :: y) = x.filter isKept ++ c :: cleanBack y := by
  have back : (x ++ c :: y).reverse = y.reverse ++ c :: x.reverse := by simp
  have whole : ((x ++ c :: y).reverse.dropWhile isEdge).reverse =
      x ++ c :: (y.reverse.dropWhile isEdge).reverse := by
    rw [back, dropWhile_cut (isEdge_of_large large)]
    simp
  rw [cleanBack, whole, List.filter_append, List.filter_cons_of_pos (isKept_of_large large)]
  rfl

/-- On either side of a visible character a text is cleaned by itself. -/
theorem clean_cut {x y : List Char} {c : Char} (large : 32 < c.toNat) :
    clean (x ++ c :: y) = cleanFront x ++ c :: cleanBack y := by
  have whole : clean (x ++ c :: y) = cleanBack ((x ++ c :: y).dropWhile isEdge) := rfl
  rw [whole, dropWhile_cut (isEdge_of_large large), cleanBack_cut large]
  rfl

theorem filter_isKept {s : List Char} (large : ∀ c ∈ s, 32 < c.toNat) : s.filter isKept = s :=
  List.filter_eq_self.2 fun c mem => isKept_of_large (large c mem)

theorem dropWhile_isEdge {s : List Char} (large : ∀ c ∈ s, 32 < c.toNat) :
    s.dropWhile isEdge = s :=
  dropWhile_none fun c mem => isEdge_of_large (large c mem)

theorem cleanFront_visible {s : List Char} (large : ∀ c ∈ s, 32 < c.toNat) :
    cleanFront s = s := by
  rw [cleanFront, dropWhile_isEdge large, filter_isKept large]

theorem cleanBack_visible {s : List Char} (large : ∀ c ∈ s, 32 < c.toNat) : cleanBack s = s := by
  have back : s.reverse.dropWhile isEdge = s.reverse :=
    dropWhile_isEdge fun c mem => large c (List.mem_reverse.1 mem)
  rw [cleanBack, back, List.reverse_reverse, filter_isKept large]

/-- A text without blanks is clean. -/
theorem clean_large {s : List Char} (large : ∀ c ∈ s, 32 < c.toNat) : clean s = s := by
  have whole : clean s = cleanBack (s.dropWhile isEdge) := rfl
  rw [whole, dropWhile_isEdge large, cleanBack_visible large]

/-- Behind visible characters a text is cleaned by itself. -/
theorem clean_append {x : List Char} (filled : x ≠ []) (large : ∀ c ∈ x, 32 < c.toNat)
    (y : List Char) : clean (x ++ y) = x ++ cleanBack y := by
  obtain ⟨front, last, concat⟩ := (List.eq_nil_or_concat x).resolve_left filled
  obtain rfl := concat.trans List.concat_eq_append
  obtain ⟨before, behind⟩ := List.forall_mem_append.1 large
  have cut := clean_cut (x := front) (y := y) (behind last (List.mem_singleton_self last))
  rw [List.append_assoc, List.singleton_append, cut, cleanFront_visible before, List.append_cons]

theorem mem_of_mem_cleanBack {s : List Char} {c : Char} (h : c ∈ cleanBack s) : c ∈ s :=
  List.mem_reverse.1 ((List.dropWhile_sublist _).mem (List.mem_reverse.1 (List.mem_filter.1 h).1))

/-! ## The scheme -/

/-- What does not pass as a whole has a first character that does not. -/
theorem exists_cut {p : Char → Bool} {x : List Char} (stops : ∃ c ∈ x, p c = false) :
    ∃ front c behind, x = front ++ c :: behind ∧ (∀ d ∈ front, p d = true) ∧ p c = false := by
  induction x with
  | nil => simp at stops
  | cons c x ih =>
    cases pass : p c with
    | false => exact ⟨[], c, x, rfl, nofun, pass⟩
    | true =>
      obtain ⟨d, mem, stop⟩ := stops
      have other : d ≠ c := by
        rintro rfl
        rw [pass] at stop
        cases stop
      obtain ⟨front, e, behind, rfl, all, stop⟩ :=
        ih ⟨d, (List.mem_cons.1 mem).resolve_left other, stop⟩
      exact ⟨c :: front, e, behind, rfl, List.forall_mem_cons.2 ⟨pass, all⟩, stop⟩

theorem span_cut {α : Type} {p : α → Bool} {front : List α} {c : α}
    (all : ∀ d ∈ front, p d = true) (stop : p c = false) (behind : List α) :
    (front ++ c :: behind).span p = (front, c :: behind) := by
  rw [List.span_eq_takeWhile_dropWhile, List.takeWhile_append_of_pos all,
    List.dropWhile_append_of_pos all]
  simp [stop]

/-- A list is cut at the first of its kind. -/
theorem span_ne {α : Type} [DecidableEq α] {c : α} {front : List α} (first : c ∉ front)
    (behind : List α) : (front ++ c :: behind).span (· ≠ c) = (front, c :: behind) := by
  refine span_cut (fun d mem => ?_) (by simp) behind
  rw [decide_eq_true_eq]
  rintro rfl
  exact first mem

theorem isSchemeChar_colon : isSchemeChar ':' = false := by
  simp only [isSchemeChar, String.contains_char_eq]
  decide

/-- Letters and digits in front of a colon are a scheme. -/
theorem readScheme_letters {c : Char} {letters : List Char} (first : c.isAlpha = true)
    (all : ∀ d ∈ c :: letters, d.isAlphanum = true) (rest : List Char) :
    readScheme (c :: letters ++ ':' :: rest) =
      some (String.ofList ((c :: letters).map Char.toLower), rest) := by
  have pass : ∀ d ∈ c :: letters, isSchemeChar d = true := fun d mem => by
    rw [isSchemeChar, all d mem, Bool.true_or]
  rw [readScheme, span_cut pass isSchemeChar_colon]
  exact if_pos first

/-- Once the scheme has ended, whatever comes is behind it. -/
theorem readScheme_append {x : List Char} (stops : ∃ c ∈ x, isSchemeChar c = false)
    (y : List Char) :
    readScheme (x ++ y) = (readScheme x).map fun (name, rest) => (name, rest ++ y) := by
  obtain ⟨front, c, behind, rfl, all, stop⟩ := exists_cut stops
  unfold readScheme
  rw [List.append_assoc, List.cons_append, span_cut all stop, span_cut all stop]
  cases front with
  | nil => rfl
  | cons d front =>
    by_cases colon : c = ':'
    · subst colon
      show (if d.isAlpha then some (_, behind ++ y) else none) =
        Option.map _ (if d.isAlpha then some (_, behind) else none)
      split <;> rfl
    · simp [colon]

/-! ## The host and the port -/

/-- The characters that end who and where, in one manner or other. -/
def enders : List Char :=
  ['/', '?', '#', '\\']

theorem mem_enders {manner : Manner} {c : Char} (h : endsAuthority manner c = true) :
    c ∈ enders := by
  simp only [endsAuthority, Bool.or_eq_true, Bool.and_eq_true, beq_iff_eq] at h
  simp only [enders, List.mem_cons, List.not_mem_nil]
  tauto

theorem hostLength_plain {name behind : List Char} (plain : ∀ c ∈ name, c ≠ ':' ∧ c ≠ '[') :
    hostLength false (name ++ ':' :: behind) = name.length := by
  induction name with
  | nil => rfl
  | cons c name ih =>
    obtain ⟨⟨colon, opened⟩, rest⟩ := List.forall_mem_cons.1 plain
    simp [hostLength, colon, opened, ih rest]

theorem hostLength_brackets {s behind : List Char} (bare : Bare s) :
    hostLength false ('[' :: (s ++ ']' :: ':' :: behind)) = s.length + 2 := by
  have inside : hostLength true (s ++ ']' :: ':' :: behind) = s.length + 1 := by
    induction s with
    | nil => rfl
    | cons c s ih =>
      obtain ⟨⟨opened, closed⟩, rest⟩ := List.forall_mem_cons.1 bare
      simp [hostLength, opened, closed, ih rest]
  show hostLength true _ + 1 = _
  rw [inside]

/-- A port that was written is read, and left out where the scheme has it by itself. -/
theorem readPort_ofNat (manner : Manner) (port : UInt16) (rest : List Char)
    (ends : ∀ c ∈ rest.head?, endsAuthority manner c = true) :
    readPort manner (':' :: (Digits.ofNat 10 port.toNat ++ rest)) =
      .ok (if some port = manner.defaultPort? then none else some port) := by
  have bound : port.toNat < 65536 := port.toNat_lt
  have inside : ∀ c ∈ Digits.ofNat 10 port.toNat,
      (!(endsAuthority manner c || c == '\\')) = true := by
    have other : ∀ c ∈ Digits.ofNat 10 port.toNat, c ∉ enders ∧ c ≠ '\\' :=
      Digits.forall_ofNat (by decide) (by decide) _
    intro c mem
    obtain ⟨stays, slash⟩ := other c mem
    rw [Bool.eq_false_iff.2 fun ends => stays (mem_enders ends), beq_false_of_ne slash]
    rfl
  have digits : (Digits.ofNat 10 port.toNat ++ rest).takeWhile
      (fun c => !(endsAuthority manner c || c == '\\')) = Digits.ofNat 10 port.toNat := by
    rw [List.takeWhile_append_of_pos inside]
    cases rest with
    | nil => simp
    | cons c rest => simp [ends c rfl]
  have decimal : ((Digits.ofNat 10 port.toNat).any fun c => !c.isDigit) = false :=
    List.any_eq_false.2 (Digits.forall_ofNat (by decide) (by decide) _)
  have fits : decide (UInt16.size ≤ Digits.toNat 10 (Digits.ofNat 10 port.toNat)) = false := by
    rw [Digits.toNat_ofNat (by decide) (by decide)]
    exact decide_eq_false (Nat.not_le.2 bound)
  have filled : (Digits.ofNat 10 port.toNat).isEmpty = false :=
    List.isEmpty_eq_false_iff.2 (Digits.ofNat_ne_nil _ _)
  have read : portOfDigits (Digits.ofNat 10 port.toNat) = .ok (some port) := by
    rw [portOfDigits, decimal, fits, filled, Digits.toNat_ofNat (by decide) (by decide)]
    simp
  rw [readPort, digits, read]
  simp

/-! ## Who and where -/

/-- The characters between the slashes and what ends this part. -/
def Inside (manner : Manner) (s : List Char) : Prop :=
  ∀ c ∈ s, endsAuthority manner c = false

/-- Where a URL leads to: what stands behind the sign `@`, if any. -/
def readPlace (manner : Manner) (place rest : List Char) :
    Except Fault (Option Host × Option UInt16) := do
  let length := hostLength false place
  let host ← hostOf manner (place.take length)
  let behind := place.drop length ++ rest
  if host.isNone && behind.head? == some ':' then throw .emptyHost
  let port ← readPort manner behind
  return (host, port)

/-- The URL of who signs in and where. -/
def join (scheme : String) (signIn : String × String)
    (place : Except Fault (Option Host × Option UInt16)) : Except Fault Url := do
  let (host, port) ← place
  if host.isNone && !(signIn.1.isEmpty && signIn.2.isEmpty) then throw .emptyHost
  return { scheme, username := signIn.1, password := signIn.2, host, port }

theorem readAuthority_eq (scheme : String) (manner : Manner) (s : List Char) :
    readAuthority scheme manner s =
      let (front, rest) := s.span fun c => !endsAuthority manner c
      let (signIn, place) := splitLast '@' front
      if signIn == some [] && place.isEmpty && !rest.isEmpty then .error .emptyHost
      else join scheme (userinfo (signIn.getD [])) (readPlace manner place rest) := by
  unfold readAuthority join readPlace
  dsimp only
  split
  · rfl
  · cases hostOf manner _ with
    | error fault => rfl
    | ok host =>
      show (if _ then _ else _) = (if _ then _ else _) >>= _
      split
      · rfl
      · cases readPort manner _ with
        | error fault => rfl
        | ok port => rfl

/-! ### Signing in -/

theorem splitLast_none {c : Char} {s : List Char} (h : c ∉ s) : splitLast c s = (none, s) := by
  have all : ∀ x ∈ s.reverse, decide (x ≠ c) = true := by
    intro x mem
    rw [decide_eq_true_eq]
    rintro rfl
    exact h (List.mem_reverse.1 mem)
  rw [splitLast, List.span_eq_takeWhile_dropWhile, List.dropWhile_eq_nil_iff.2 all]

/-- The last of two signs is the last of what stands behind the first, if any is there. -/
theorem splitLast_append (c : Char) (x y : List Char) : splitLast c (x ++ c :: y) =
    (some (x ++ ((splitLast c y).1.map (c :: ·)).getD []), (splitLast c y).2) := by
  have back : (x ++ c :: y).reverse = y.reverse ++ c :: x.reverse := by simp
  by_cases mem : c ∈ y
  · have stops : ∃ d ∈ y.reverse, decide (d ≠ c) = false :=
      ⟨c, List.mem_reverse.2 mem, by simp⟩
    obtain ⟨behind, d, before, split, all, stop⟩ := exists_cut stops
    obtain rfl : d = c := by simpa using stop
    unfold splitLast
    rw [back, split, List.append_assoc, List.cons_append, span_cut all stop, span_cut all stop]
    simp
  · rw [splitLast_none mem]
    unfold splitLast
    rw [back, span_ne (mt List.mem_reverse.1 mem)]
    simp

theorem span_inside {manner : Manner} {x : List Char} (inside : Inside manner x) (y : List Char) :
    (x ++ y).span (fun c => !endsAuthority manner c) =
      (x ++ (y.span fun c => !endsAuthority manner c).1,
        (y.span fun c => !endsAuthority manner c).2) := by
  have all : ∀ c ∈ x, (!endsAuthority manner c) = true := fun c mem => by rw [inside c mem]; rfl
  simp only [List.span_eq_takeWhile_dropWhile, List.takeWhile_append_of_pos all,
    List.dropWhile_append_of_pos all]

theorem inside_at (manner : Manner) : Inside manner ['@'] := by
  refine List.forall_mem_singleton.2 ?_
  cases manner <;> rfl

/-- Letters, digits and per cent signs, which stay as they are in a sign-in. -/
def isSettled (c : Char) : Bool :=
  c.isAlphanum || c == '%'

theorem settled {c : Char} (h : isSettled c = true) : 32 < c.toNat ∧ c.toNat < 127 ∧
    c ∉ enders ∧ c ≠ ':' ∧ c ≠ '@' ∧ isEncodedInUserinfo c = false := by
  have ascii : c.toNat < 128 := by
    have ranges : (decide (65 ≤ c.val ∧ c.val ≤ 90) ||
        (decide (97 ≤ c.val) && decide (c.val ≤ 122)) ||
        (decide (48 ≤ c.val) && decide (c.val ≤ 57)) || c == '%') = true := h
    simp only [Bool.or_eq_true, Bool.and_eq_true, decide_eq_true_eq, beq_iff_eq,
      UInt32.le_iff_toNat_le] at ranges
    rcases ranges with ((⟨_, large⟩ | ⟨_, large⟩) | ⟨_, large⟩) | rfl
    · exact Nat.lt_of_le_of_lt large (by decide)
    · exact Nat.lt_of_le_of_lt large (by decide)
    · exact Nat.lt_of_le_of_lt large (by decide)
    · decide
  refine forall_ascii (P := fun c => isSettled c = true → 32 < c.toNat ∧ c.toNat < 127 ∧
    c ∉ enders ∧ c ≠ ':' ∧ c ≠ '@' ∧ isEncodedInUserinfo c = false) ?_ ascii h
  simp only [isEncodedInUserinfo, String.contains_char_eq]
  decide +kernel

theorem inside_settled (manner : Manner) {s : List Char} (all : ∀ c ∈ s, isSettled c = true) :
    Inside manner s :=
  fun c mem => Bool.eq_false_iff.2 fun ends => (settled (all c mem)).2.2.1 (mem_enders ends)

/-- Where nothing has to be encoded, nothing is. -/
theorem encode_kept {p : Char → Bool} {s : List Char}
    (kept : ∀ c ∈ s, p c = false ∧ c.toNat < 127) : Percent.encode p s = s := by
  induction s with
  | nil => rfl
  | cons c s ih =>
    obtain ⟨⟨plain, small⟩, rest⟩ := List.forall_mem_cons.1 kept
    have whole : Percent.encode p (c :: s) = (if p c || 127 ≤ c.toNat then
        (String.utf8EncodeChar c).flatMap Percent.encodeOctet else [c]) ++ Percent.encode p s :=
      List.flatMap_cons
    rw [whole, plain, ih rest, if_neg (by simpa using small)]
    rfl

theorem encode_settled {s : List Char} (all : ∀ c ∈ s, isSettled c = true) :
    Percent.encode isEncodedInUserinfo s = s :=
  encode_kept fun c mem =>
    have ⟨_, small, _, _, _, stays⟩ := settled (all c mem)
    ⟨stays, small⟩

/-- The first colon cuts a sign-in in two. -/
theorem userinfo_cut {x : List Char} (first : ':' ∉ x) (y : List Char) :
    userinfo (x ++ ':' :: y) = (String.ofList (Percent.encode isEncodedInUserinfo x),
      String.ofList (Percent.encode isEncodedInUserinfo y)) := by
  rw [userinfo, span_ne first]
  rfl

/-- Who signs in stands before the last sign `@`, and does not touch where. -/
theorem readAuthority_signed (scheme : String) {manner : Manner} {signIn z : List Char}
    (inside : Inside manner signIn) (filled : signIn ≠ []) :
    readAuthority scheme manner (signIn ++ '@' :: z) =
      let (front, rest) := z.span fun c => !endsAuthority manner c
      let (more, place) := splitLast '@' front
      join scheme (userinfo (signIn ++ (more.map ('@' :: ·)).getD []))
        (readPlace manner place rest) := by
  have whole : signIn ++ '@' :: z = (signIn ++ ['@']) ++ z := by simp
  have inside' : Inside manner (signIn ++ ['@']) :=
    List.forall_mem_append.2 ⟨inside, inside_at manner⟩
  rw [readAuthority_eq, whole, span_inside inside']
  generalize z.span (fun c => !endsAuthority manner c) = cut
  obtain ⟨front, rest⟩ := cut
  dsimp only
  rw [List.append_assoc, List.singleton_append, splitLast_append]
  generalize splitLast '@' front = cut
  obtain ⟨more, place⟩ := cut
  have named : (some (signIn ++ (more.map ('@' :: ·)).getD []) == some []) = false := by
    simp [filled]
  dsimp only
  rw [named]
  rfl

/-- Where a text leads to in which nobody signs in. -/
def readWhere (manner : Manner) (z : List Char) : Except Fault (Option Host × Option UInt16) :=
  readPlace manner (z.span fun c => !endsAuthority manner c).1
    (z.span fun c => !endsAuthority manner c).2

theorem not_mem_front (manner : Manner) {z : List Char} (nobody : '@' ∉ z) :
    '@' ∉ (z.span fun c => !endsAuthority manner c).1 := by
  rw [List.span_eq_takeWhile_dropWhile]
  exact fun mem => nobody ((List.takeWhile_sublist _).mem mem)

theorem readAuthority_unsigned (scheme : String) {manner : Manner} {z : List Char}
    (nobody : '@' ∉ z) :
    readAuthority scheme manner z = join scheme ("", "") (readWhere manner z) := by
  have front := not_mem_front manner nobody
  rw [readAuthority_eq, readWhere]
  generalize z.span (fun c => !endsAuthority manner c) = cut at front ⊢
  obtain ⟨front', rest⟩ := cut
  dsimp only
  rw [splitLast_none front]
  rfl

/-- With one sign `@`, just what stands before it is who signs in. -/
theorem readAuthority_once (scheme : String) {manner : Manner} {signIn z : List Char}
    (inside : Inside manner signIn) (filled : signIn ≠ []) (nobody : '@' ∉ z) :
    readAuthority scheme manner (signIn ++ '@' :: z) =
      join scheme (userinfo signIn) (readWhere manner z) := by
  have front := not_mem_front manner nobody
  rw [readAuthority_signed scheme inside filled, readWhere]
  generalize z.span (fun c => !endsAuthority manner c) = cut at front ⊢
  obtain ⟨front', rest⟩ := cut
  dsimp only
  rw [splitLast_none front]
  simp

end Sluice.Url
