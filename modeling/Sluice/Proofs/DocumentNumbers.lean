import Sluice.Config.File

/-
  The whole numbers of a document fit 64 bits. A number is checked where it is read
  (`Toml.gives_signed`), a value holds only numbers that were read (`Toml.gives_values`), and what
  puts values into tables leaves the numbers as they are (`Toml.Entries.Fit.change`). So all numbers
  of a document fit (`Toml.fit_of_parse`), and with them the most connections that a file can ask
  for (`Toml.Fits.count`).
-/

namespace Sluice

namespace Toml

/-- All whole numbers in a value fit 64 bits. -/
inductive Fits : Value → Prop where
  | string (text : String) : Fits (.string text)
  | integer {n : Int} (low : -9223372036854775808 ≤ n) (high : n ≤ 9223372036854775807) :
      Fits (.integer n)
  | float : Fits .float
  | boolean (b : Bool) : Fits (.boolean b)
  | dateTime : Fits .dateTime
  | array {items : List Value} (all : ∀ v ∈ items, Fits v) : Fits (.array items)
  | table (origin : Origin) {entries : Entries} (all : ∀ e ∈ entries, Fits e.2) :
      Fits (.table origin entries)
  | tables {elements : List Entries} (all : ∀ entries ∈ elements, ∀ e ∈ entries, Fits e.2) :
      Fits (.tables elements)

/-! ## Tables -/

namespace Entries

/-- All whole numbers in a table fit 64 bits. -/
def Fit (entries : Entries) : Prop :=
  ∀ e ∈ entries, Fits e.2

variable {entries entries' : Entries} {key : String} {v : Value}

theorem fit_nil : Fit [] := nofun

theorem Fit.get (fit : entries.Fit) (found : entries.get? key = some v) : Fits v := by
  obtain ⟨entry, mem, rfl⟩ := Option.map_eq_some_iff.1 found
  exact fit entry (List.mem_of_find?_eq_some mem)

theorem Fit.replace (fit : entries.Fit) (fits : Fits v) : (entries.replace key v).Fit := by
  intro entry mem
  obtain ⟨⟨k, old⟩, there, rfl⟩ := List.mem_map.1 mem
  dsimp only
  split
  · exact fits
  · exact fit (k, old) there

theorem Fit.concat (fit : entries.Fit) (fits : Fits v) : (entries ++ [(key, v)] : Entries).Fit := by
  intro entry mem
  rcases List.mem_append.1 mem with mem | mem
  · exact fit entry mem
  · rw [List.mem_singleton.1 mem]
    exact fits

theorem Fit.add (fit : entries.Fit) (fits : Fits v) (added : entries.add key v = some entries') :
    entries'.Fit := by
  unfold Entries.add at added
  split at added
  · obtain rfl := Option.some.inj added
    exact fit.concat fits
  · cases added

/-- What changes a table into one whose numbers fit. -/
def Keeps (f : Origin → Entries → Option Entries) : Prop :=
  ∀ origin entries entries', entries.Fit → f origin entries = some entries' → entries'.Fit

theorem Fit.change {fresh origin : Origin} {f : Origin → Entries → Option Entries}
    {path : List String} (fit : entries.Fit) (keeps : Keeps f)
    (changed : change fresh f path origin entries = some entries') : entries'.Fit := by
  induction path generalizing origin entries entries' with
  | nil => exact keeps origin entries entries' fit changed
  | cons key path ih =>
    rw [Entries.change] at changed
    split at changed
    · obtain ⟨inner, made, changed⟩ := Option.bind_eq_some_iff.1 changed
      obtain rfl := Option.some.inj changed
      exact fit.concat (.table fresh (ih fit_nil made))
    · next origin inner found =>
      split at changed
      · cases changed
      · obtain ⟨inner', made, changed⟩ := Option.bind_eq_some_iff.1 changed
        obtain rfl := Option.some.inj changed
        cases fit.get found with
        | table _ all => exact fit.replace (.table origin (ih all made))
    · next elements found =>
      split at changed
      · cases changed
      · next last final =>
        obtain ⟨last', made, changed⟩ := Option.bind_eq_some_iff.1 changed
        obtain rfl := Option.some.inj changed
        cases fit.get found with
        | tables all =>
          refine fit.replace (.tables fun entries mem => ?_)
          rcases List.mem_append.1 mem with mem | mem
          · exact all entries (List.dropLast_subset _ mem)
          · rw [List.mem_singleton.1 mem]
            exact ih (all last (List.mem_of_getLast? final)) made
    · cases changed

theorem keeps_addDotted (path : List String) (key : String) (fits : Fits v) :
    Keeps (addDotted path key v) := by
  intro origin entries entries' fit added
  refine fit.change (fun origin entries entries' fit added => ?_) added
  split at added
  · cases added
  · exact fit.add fits added

theorem keeps_openTable (key : String) : Keeps fun _ => openTable key := by
  intro origin entries entries' fit opened
  change openTable key entries = some entries' at opened
  unfold openTable at opened
  split at opened
  · obtain rfl := Option.some.inj opened
    exact fit.concat (.table .header fit_nil)
  · next inner found =>
    obtain rfl := Option.some.inj opened
    cases fit.get found with
    | table _ all => exact fit.replace (.table .header all)
  · cases opened

theorem keeps_openElement (key : String) : Keeps fun _ => openElement key := by
  intro origin entries entries' fit opened
  change openElement key entries = some entries' at opened
  unfold openElement at opened
  split at opened
  · obtain rfl := Option.some.inj opened
    refine fit.concat (.tables fun entries mem => ?_)
    rw [List.mem_singleton.1 mem]
    exact fit_nil
  · next elements found =>
    obtain rfl := Option.some.inj opened
    cases fit.get found with
    | tables all =>
      refine fit.replace (.tables fun entries mem => ?_)
      rcases List.mem_append.1 mem with mem | mem
      · exact all entries mem
      · rw [List.mem_singleton.1 mem]
        exact fit_nil
  · cases opened

end Entries

/-! ## Reading -/

section Reading

variable {α β : Type} {P : α → Prop} {Q : β → Prop} {p p' : Parse α} {f : β → Parse α} {q : Parse β}

/-- So is everything that is read. -/
def Gives (P : α → Prop) (p : Parse α) : Prop :=
  ∀ s a rest, p s = some (a, rest) → P a

theorem gives_pure {a : α} (h : P a) : Gives P (pure a) := by
  intro s a' rest given
  obtain ⟨rfl, -⟩ := Prod.mk.inj (Option.some.inj given)
  exact h

theorem gives_failure : Gives P failure := nofun

theorem gives_bind (first : Gives Q q) (next : ∀ b, Q b → Gives P (f b)) : Gives P (q >>= f) := by
  intro s a rest given
  obtain ⟨⟨b, s'⟩, read, given⟩ := Option.bind_eq_some_iff.1 given
  exact next b (first s b s' read) s' a rest given

/-- What was read before does not matter. -/
theorem gives_then (next : ∀ b, Gives P (f b)) : Gives P (q >>= f) :=
  gives_bind (Q := fun _ => True) (fun _ _ _ _ => trivial) fun b _ => next b

theorem gives_orElse (left : Gives P p) (right : Gives P p') : Gives P (p <|> p') := by
  intro s a rest given
  change (p s <|> p' s) = some (a, rest) at given
  cases read : p s with
  | some found =>
    rw [read] at given
    exact left s a rest (read.trans given)
  | none =>
    rw [read] at given
    exact right s a rest given

theorem gives_lift {x : Option α} (h : ∀ a, x = some a → P a) : Gives P (StateT.lift x) := by
  intro s a rest given
  obtain ⟨a', found, given⟩ := Option.bind_eq_some_iff.1 given
  obtain ⟨rfl, -⟩ := Prod.mk.inj (Option.some.inj given)
  exact h a' found

/-- A number is read only if it fits. -/
theorem gives_signed (n : Int) : Gives Fits (signed n) := by
  unfold signed
  split
  · next fits => exact gives_pure (.integer fits.1 fits.2)
  · exact gives_failure

theorem gives_number : Gives Fits number := by
  have special : Gives Fits specialFloat :=
    gives_then fun _ => gives_then fun _ => gives_pure .float
  have based : Gives Fits basedInteger := by
    have ofBase (base : Nat) : Gives Fits (do signed (Digits.toNat base (← digits base))) :=
      gives_then fun _ => gives_signed _
    refine gives_then fun _ => gives_then fun mark => ?_
    split
    · exact ofBase 16
    · exact ofBase 8
    · exact ofBase 2
    · exact gives_then ofBase
  have decimal : Gives Fits decimal := by
    refine gives_then fun negative => gives_then fun whole => gives_then fun places =>
      gives_then fun exponent => ?_
    split
    · exact gives_signed _
    · dsimp only
      split
      · exact gives_failure
      · exact gives_pure .float
  exact gives_orElse special (gives_orElse based decimal)

theorem gives_dateTime : Gives Fits dateTime := by
  refine gives_then fun dated => ?_
  split
  · exact gives_then fun _ => gives_pure .dateTime
  · exact gives_then fun _ => gives_pure .dateTime

/-- Values, the elements of an array and the entries of a table, with so much fuel. -/
theorem gives_values (fuel : Nat) :
    (∀ depth, Gives Fits (value fuel depth)) ∧
    (∀ depth before, (∀ v ∈ before.toList, Fits v) →
      Gives (fun items => ∀ v ∈ items, Fits v) (elements fuel depth before)) ∧
    ∀ depth before, Entries.Fit before → Gives Entries.Fit (members fuel depth before) := by
  induction fuel with
  | zero =>
    refine ⟨fun depth => ?_, fun depth before _ => ?_, fun depth before _ => ?_⟩
    · rw [value]
      exact gives_failure
    · rw [elements]
      exact gives_failure
    · rw [members]
      exact gives_failure
  | succ fuel ih =>
    obtain ⟨values, arrays, tables⟩ := ih
    refine ⟨fun depth => ?_, fun depth before all => ?_, fun depth before all => ?_⟩
    · rw [value]
      refine gives_then fun front => ?_
      split
      · exact gives_then fun _ => gives_pure (.string _)
      · exact gives_then fun _ => gives_pure (.string _)
      · split
        · exact gives_failure
        · exact gives_then fun _ => gives_bind (arrays _ _ (List.forall_mem_nil _)) fun _ all =>
            gives_pure (.array all)
      · split
        · exact gives_failure
        · refine gives_then fun _ => gives_then fun _ => gives_then fun close => ?_
          split
          · exact gives_pure (.table .inline Entries.fit_nil)
          · exact gives_bind (tables _ _ Entries.fit_nil) fun _ all =>
              gives_pure (.table .inline all)
      · exact gives_then fun _ => gives_pure (.boolean true)
      · exact gives_then fun _ => gives_pure (.boolean false)
      · exact gives_orElse gives_dateTime gives_number
    · rw [elements]
      refine gives_then fun _ => gives_then fun close => ?_
      split
      · exact gives_pure all
      · refine gives_bind (values depth) fun v fits => ?_
        have more : ∀ v' ∈ (before.push v).toList, Fits v' := by
          intro v' mem
          rw [Array.toList_push] at mem
          rcases List.mem_append.1 mem with mem | mem
          · exact all v' mem
          · rwa [List.mem_singleton.1 mem]
        refine gives_then fun _ => gives_then fun comma => ?_
        split
        · exact arrays depth _ more
        · exact gives_then fun _ => gives_pure more
    · rw [members]
      refine gives_then fun path => gives_then fun _ => gives_then fun _ =>
        gives_bind (values depth) fun v fits => gives_then fun _ => ?_
      split
      · exact gives_failure
      · next entries added =>
        have more := Entries.keeps_addDotted _ _ fits .inline before entries all added
        refine gives_then fun comma => ?_
        split
        · exact tables depth entries more
        · exact gives_then fun _ => gives_pure more

/-! ## Documents -/

theorem gives_assignment {s : State} (fit : s.root.Fit) (fuel : Nat) :
    Gives (fun s' : State => s'.root.Fit) (s.assignment fuel) := by
  refine gives_then fun path => gives_then fun _ => gives_then fun _ =>
    gives_bind ((gives_values fuel).1 _) fun v fits => gives_then fun _ =>
      gives_lift fun s' changed => ?_
  obtain ⟨root, made, same⟩ := Option.bind_eq_some_iff.1 changed
  obtain rfl := Option.some.inj same
  exact fit.change (Entries.keeps_addDotted _ _ fits) made

theorem gives_header {s : State} (fit : s.root.Fit) :
    Gives (fun s' : State => s'.root.Fit) s.header := by
  refine gives_then fun _ => gives_then fun second => gives_then fun path => gives_then fun _ =>
    gives_then fun _ => gives_bind (Q := Entries.Fit) (gives_lift fun root changed => ?_)
      fun root fit => gives_pure fit
  refine fit.change (fun origin entries entries' fit opened => ?_) changed
  split at opened
  · exact Entries.keeps_openElement _ origin entries entries' fit opened
  · exact Entries.keeps_openTable _ origin entries entries' fit opened

theorem gives_lines {s : State} (fit : s.root.Fit) (fuel : Nat) :
    Gives (fun s' : State => s'.root.Fit) (s.lines fuel) := by
  induction fuel generalizing s with
  | zero => exact gives_failure
  | succ fuel ih =>
    refine gives_then fun _ => gives_then fun front => ?_
    split
    · exact gives_pure fit
    · exact gives_bind (gives_header fit) fun s' fit => ih fit
    · exact gives_then fun _ => ih fit
    · exact gives_then fun _ => ih fit
    · exact gives_then fun _ => ih fit
    · exact gives_bind (gives_assignment fit fuel) fun s' fit => ih fit

/-- All whole numbers in a document fit 64 bits. -/
theorem fit_of_parse {text : List Char} {entries : Entries} (parsed : parse text = some entries) :
    entries.Fit := by
  unfold parse at parsed
  dsimp only at parsed
  split at parsed
  · next s read =>
    obtain rfl := Option.some.inj parsed
    exact gives_lines Entries.fit_nil _ _ s [] read
  · cases parsed

end Reading

/-! ## Sections -/

variable {v w : Value} {n : Nat}

/-- What stands in a section fits if the section does. -/
theorem Fits.get {fields : Section} {place : Nat} {name : String} (fits : Fits v)
    (isSection : Section.of? v = some fields) (found : fields.get? place name = some w) :
    Fits w := by
  cases fits with
  | table origin all =>
    obtain rfl := Option.some.inj isSection
    exact Entries.Fit.get all found
  | array all =>
    obtain rfl := Option.some.inj isSection
    exact all w (List.mem_of_getElem? found)
  | tables all =>
    obtain rfl := Option.some.inj isSection
    obtain ⟨entries, there, rfl⟩ := Option.map_eq_some_iff.1 found
    exact .table .header (all entries (List.mem_of_getElem? there))
  | dateTime =>
    obtain rfl := Option.some.inj isSection
    cases found
  | _ => cases isSection

/-- A number that is not negative fits 64 bits. -/
theorem Fits.count (fits : Fits v) (count : count? v = some n) : n < UInt64.size := by
  cases fits with
  | integer low high =>
    rw [count?] at count
    split at count
    · obtain rfl := Option.some.inj count
      have bound : (9223372036854775807 : Int).toNat < UInt64.size := by decide
      omega
    · cases count
  | _ => cases count

end Toml

end Sluice
