import Mathlib.Logic.Relation
import Sluice.Proofs.WrittenHeads

/-
  The host of a request whose target is a path: the first `Host` field tells it, whatever surrounds
  that field. Blanks are taken off its value twice, as octets when it is read and as characters when
  it is judged, which comes to taking them off once (`hostOfValue_trimSpaces`). What is done to the
  other fields, or behind the first `Host` field, is told move by move (`Reworked`) and leaves the
  host as it is (`httpHead_path`).
-/

namespace Sluice

open Octets

/-! ## Blanks around a text -/

/-- A blank octet is ASCII, and writes a blank character. -/
theorem exists_isBlank {b : UInt8} (blank : Http.isSpace b = true) :
    b.toNat < 128 ∧ ∃ ch, String.utf8EncodeChar ch = [b] ∧ isBlank ch = true := by
  simp only [Http.isSpace, Bool.or_eq_true, beq_iff_eq] at blank
  rcases blank with rfl | rfl
  · exact ⟨by decide, ' ', rfl, rfl⟩
  · exact ⟨by decide, '\t', rfl, rfl⟩

theorem trimBlanks_cons {ch : Char} (blank : isBlank ch = true) (cs : List Char) :
    trimBlanks (ch :: cs) = trimBlanks cs := by
  rw [trimBlanks, List.dropWhile_cons_of_pos blank, trimBlanks]

theorem trimBlanks_concat {ch : Char} (blank : isBlank ch = true) (cs : List Char) :
    trimBlanks (cs ++ [ch]) = trimBlanks cs := by
  rw [trimBlanks, List.dropWhile_append, List.dropWhile_cons_of_pos blank, List.dropWhile_nil]
  split
  · next empty => rw [trimBlanks, List.isEmpty_iff.1 empty]
  · rw [List.reverse_append, List.reverse_singleton, List.singleton_append,
      List.dropWhile_cons_of_pos blank, trimBlanks]

namespace Http

/-! ## The value of a field -/

/-- The host that the value of a `Host` field names. -/
def hostOfValue (value : Octets) : Except HeadFault (Option String) :=
  match Utf8.decode value with
  | .error _ => .error .hostNotUtf8
  | .ok value => .ok (named (stripPort (trimBlanks value)))

theorem hostOfValue_congr {s t : Octets}
    (same : ∀ cs, Utf8.decode s = .ok cs →
      ∃ cs', Utf8.decode t = .ok cs' ∧ trimBlanks cs = trimBlanks cs')
    (back : ∀ cs, Utf8.decode t = .ok cs → ∃ cs', Utf8.decode s = .ok cs') :
    hostOfValue s = hostOfValue t := by
  unfold hostOfValue
  cases hs : Utf8.decode s with
  | ok cs =>
    obtain ⟨cs', ht, trimmed⟩ := same cs hs
    rw [ht]
    dsimp only
    rw [trimmed]
  | error e =>
    cases ht : Utf8.decode t with
    | ok cs =>
      obtain ⟨cs', read⟩ := back cs ht
      cases hs.symm.trans read
    | error e => rfl

theorem hostOfValue_cons {b : UInt8} (blank : isSpace b = true) (t : Octets) :
    hostOfValue (b :: t) = hostOfValue t := by
  obtain ⟨ascii, ch, one, white⟩ := exists_isBlank blank
  refine hostOfValue_congr (fun cs read => ?_) fun cs read =>
    ⟨_, Utf8.decode_join Utf8.decode_nil one read⟩
  obtain ⟨front, ch', behind, rfl, nothing, one', read'⟩ := Utf8.decode_cut (s := []) ascii read
  obtain rfl := Utf8.encode_inj (one'.trans one.symm)
  obtain rfl := Except.ok.inj (Utf8.decode_nil.symm.trans nothing)
  exact ⟨behind, read', trimBlanks_cons white behind⟩

theorem hostOfValue_concat {b : UInt8} (blank : isSpace b = true) (s : Octets) :
    hostOfValue (s ++ [b]) = hostOfValue s := by
  obtain ⟨ascii, ch, one, white⟩ := exists_isBlank blank
  refine hostOfValue_congr (fun cs read => ?_) fun cs read =>
    ⟨_, Utf8.decode_join read one Utf8.decode_nil⟩
  obtain ⟨front, ch', behind, rfl, read', one', nothing⟩ := Utf8.decode_cut ascii read
  obtain rfl := Utf8.encode_inj (one'.trans one.symm)
  obtain rfl := Except.ok.inj (Utf8.decode_nil.symm.trans nothing)
  exact ⟨front, read', trimBlanks_concat white front⟩

theorem hostOfValue_dropWhile (value : Octets) :
    hostOfValue (value.dropWhile isSpace) = hostOfValue value := by
  induction value with
  | nil => rfl
  | cons b t ih =>
    rw [List.dropWhile_cons]
    split
    · next blank => rw [ih, hostOfValue_cons blank]
    · rfl

theorem hostOfValue_trimEnd (value : Octets) : hostOfValue (trimEnd value) = hostOfValue value := by
  induction value using List.reverseRecOn with
  | nil => rfl
  | append_singleton s b ih =>
    rw [trimEnd, List.reverse_append, List.reverse_singleton, List.singleton_append,
      List.dropWhile_cons]
    split
    · next blank => rw [← trimEnd, ih, hostOfValue_concat blank]
    · rw [List.reverse_cons, List.reverse_reverse]

theorem hostOfValue_trimSpaces (value : Octets) :
    hostOfValue (trimSpaces value) = hostOfValue value := by
  rw [trimSpaces, hostOfValue_trimEnd, hostOfValue_dropWhile]

/-! ## The first `Host` field -/

/-- Is this a `Host` field? -/
def isHostField (f : Field) : Bool :=
  sameLetters f.name (ofText "host")

/-- The value of the first `Host` field. -/
def hostValue? (fields : List Field) : Option Octets :=
  (fields.find? isHostField).map Field.value

/-- The host that it names. -/
def hostOfValue? : Option Octets → Except HeadFault (Option String)
  | none => .ok none
  | some value => hostOfValue value

theorem hostOfFields_eq (fields : List Field) :
    hostOfFields fields = hostOfValue? (hostValue? fields) := by
  unfold hostOfFields hostValue? isHostField
  cases fields.find? fun f => sameLetters f.name (ofText "host") with
  | none => rfl
  | some f => rfl

/-- Without the blanks around their values fields name the same host. -/
theorem hostOfFields_trimmed (fields : List Field) :
    hostOfFields (fields.map Field.trimmed) = hostOfValue? (hostValue? fields) := by
  have names : isHostField ∘ Field.trimmed = isHostField := rfl
  rw [hostOfFields_eq, hostValue?, List.find?_map, names, hostValue?]
  cases fields.find? isHostField with
  | none => rfl
  | some f => exact hostOfValue_trimSpaces f.value

/-! ## What does not matter -/

/-- What may be done to fields besides the first `Host` field. -/
inductive Reworked : List Field → List Field → Prop
  | insert (front : List Field) {behind : List Field} {f : Field} (other : isHostField f = false) :
    Reworked (front ++ behind) (front ++ f :: behind)
  | remove (front : List Field) {behind : List Field} {f : Field} (other : isHostField f = false) :
    Reworked (front ++ f :: behind) (front ++ behind)
  /-- Neighbours change places. -/
  | swap (front : List Field) {behind : List Field} {f g : Field}
    (other : isHostField f = false ∨ isHostField g = false) :
    Reworked (front ++ f :: g :: behind) (front ++ g :: f :: behind)
  /-- Behind the first `Host` field anything may change. -/
  | later (front : List Field) {behind behind' : List Field} {f : Field}
    (host : isHostField f = true) :
    Reworked (front ++ f :: behind) (front ++ f :: behind')

theorem Reworked.hostValue {fields fields' : List Field} (move : Reworked fields fields') :
    hostValue? fields' = hostValue? fields := by
  unfold hostValue?
  congr 1
  cases move with
  | insert _ other => simp [List.find?_append, other]
  | remove _ other => simp [List.find?_append, other]
  | swap _ other =>
    rcases other with other | other <;> simp [List.find?_append, List.find?_cons, other]
  | later _ host => simp [List.find?_append, host]

/-- However often fields are reworked. -/
theorem hostValue_of_reworked {fields fields' : List Field}
    (moves : Relation.ReflTransGen Reworked fields fields') :
    hostValue? fields' = hostValue? fields := by
  induction moves with
  | refl => rfl
  | tail _ move ih => exact move.hostValue.trans ih

/-! ## Requests for a path -/

/-- A request for a path. -/
structure Request.ForPath (r : Request) : Prop where
  legal : r.Legal
  path : r.target.toList.head? = some '/'
  method : r.method ≠ ofText "CONNECT"

theorem Request.ForPath.hostOf {r : Request} (asks : r.ForPath) :
    hostOf r.trimmed = hostOfValue? (hostValue? r.fields) := by
  have relative : isAbsolute r.target.toList = false := by
    rw [isAbsolute, asks.path]
    rfl
  have target : hostOfTarget r.trimmed = .ok none := by
    show (if r.method == ofText "CONNECT" then _
      else if isAbsolute r.target.toList then _ else _) = _
    rw [if_neg (by simpa using asks.method), relative]
    rfl
  rw [Http.hostOf, target]
  exact hostOfFields_trimmed r.fields

end Http

namespace Sniff

open Http

/-- A client whose stream starts with this request for a path. -/
structure PathAsked (r : Request) (client : Replay) : Prop where
  forPath : r.ForPath
  bounded : r.lines.length ≤ maxHead
  arrives : r.lines <+: client.yield

theorem hostFound_path {r : Request} {client : Replay} (asked : PathAsked r client) :
    hostFound (httpHead client).1 = hostTold (hostOfValue? (hostValue? r.fields)) := by
  rw [httpHead_lines asked.forPath.legal asked.bounded asked.arrives, asked.forPath.hostOf]

theorem hostTold_failed {value? : Option Octets} :
    (∃ e, hostTold (hostOfValue? value?) = .failed e) ↔
      ∃ value, value? = some value ∧ ∀ text, Utf8.decode value ≠ .ok text := by
  cases value? with
  | none => simp [hostOfValue?, hostTold]
  | some value =>
    unfold hostOfValue? hostOfValue
    cases read : Utf8.decode value <;> simp [hostTold, read]

/-- A request for a path is found to ask for the host that its first `Host` field names, its port
and the blanks around it left out, and for none if there is no such field or it names nothing. Only
if the value is no text, nothing is found. Whatever is done to other fields, or behind the first
`Host` field, what is found stays as it is. -/
theorem httpHead_path {r : Request} {client : Replay} (asked : PathAsked r client) :
    hostFound (httpHead client).1 = hostTold (hostOfValue? (hostValue? r.fields)) ∧
    ((∃ e, hostFound (httpHead client).1 = .failed e) ↔
      ∃ value, hostValue? r.fields = some value ∧ ∀ text, Utf8.decode value ≠ .ok text) ∧
    ∀ r' client', PathAsked r' client' → Relation.ReflTransGen Reworked r.fields r'.fields →
      hostFound (httpHead client').1 = hostFound (httpHead client).1 := by
  refine ⟨hostFound_path asked, ?_, fun r' client' asked' moves => ?_⟩
  · rw [hostFound_path asked]
    exact hostTold_failed
  · rw [hostFound_path asked', hostFound_path asked, hostValue_of_reworked moves]

/-- A request with a URL in the path, and with these fields. -/
def pathRequest (fields : List Field) : Request :=
  { method := ofText "GET", target := "/?to=http://b/", minorVersion := 1, fields }

/-- A field and two `Host` fields behind it. -/
def hostTwice : List Field :=
  [⟨ofText "X", []⟩, ⟨ofText "hOST", ofText " a:80\t"⟩, ⟨ofText "Host", ofText "b"⟩]

/-- Only the first of them, with another field behind it. -/
def hostOnce : List Field :=
  [⟨ofText "hOST", ofText " a:80\t"⟩, ⟨ofText "Y", ofText "b"⟩]

/-- A client that sends a request at once. -/
def asking (r : Request) : Replay :=
  { source := [.data r.lines] }

theorem httpHead_path_reworked :
    hostFound (httpHead (asking (pathRequest hostTwice))).1 = .done (some "a") ∧
    hostFound (httpHead (asking (pathRequest hostOnce))).1 = .done (some "a") := by
  have asked : PathAsked (pathRequest hostTwice) (asking (pathRequest hostTwice)) :=
    ⟨⟨by decide +kernel, by decide, by decide⟩, by decide +kernel, by decide +kernel⟩
  have asked' : PathAsked (pathRequest hostOnce) (asking (pathRequest hostOnce)) :=
    ⟨⟨by decide +kernel, by decide, by decide⟩, by decide +kernel, by decide +kernel⟩
  have moves : Relation.ReflTransGen Reworked hostTwice hostOnce :=
    .tail (.single (.remove [] (by decide))) (.later [] (by decide))
  have named : hostTold (hostOfValue? (hostValue? hostTwice)) = .done (some "a") := by
    decide +kernel
  obtain ⟨found, -, kept⟩ := httpHead_path asked
  exact ⟨found.trans named, (kept _ _ asked' moves).trans (found.trans named)⟩

end Sniff

end Sluice
