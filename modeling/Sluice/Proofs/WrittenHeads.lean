import Mathlib.Data.Bool.AllAny
import Sluice.Proofs.HeadReading

/-
  A request that was written, as a client's stream has it. Its lines are paired, so it is judged
  alike however it arrives, and there is room for all of its fields, however many they are: what is
  found is the host that the request asks for (`httpHead_lines`).
-/

namespace Sluice

open Octets Scanner

namespace Http

/-! ## Paired lines -/

theorem paired_nil : Paired [] := by
  intro front behind split
  cases front <;> cases split

/-- A line behind which lines are paired. -/
theorem Paired.line {s t : Octets} (inline : ∀ b ∈ s, b ≠ lf) (paired : Paired t) :
    Paired (s ++ cr :: lf :: t) := by
  intro front behind whole
  rcases List.append_eq_append_iff.1 whole with ⟨rest, rfl, split⟩ | ⟨rest, rfl, split⟩
  · rcases rest with _ | ⟨b, _ | ⟨c, more⟩⟩
    · exact absurd (List.cons.inj split).1 (by decide)
    · rw [← (List.cons.inj split).1, List.getLast?_concat]
    · -- The octet is in what stands behind the line, and not the first there.
      have last := paired more behind (List.cons.inj (List.cons.inj split).2).2
      have filled : more ≠ [] := by
        rintro rfl
        cases last
      rw [List.getLast?_append, List.getLast?_cons_cons, List.getLast?_cons_of_ne_nil filled, last,
        Option.some_or]
  · cases rest with
    | nil => exact absurd (List.cons.inj split).1 (by decide)
    | cons b more =>
      obtain rfl := (List.cons.inj split).1
      exact absurd rfl (inline lf (List.mem_append_right _ List.mem_cons_self))

theorem ne_lf_of_isTarget {b : UInt8} (h : isTarget b = true) : b ≠ lf :=
  (ne_of_isText (isText_of_isTarget h).1).1

theorem paired_lines {r : Request} (legal : r.Legal) : Paired r.lines := by
  have fields : ∀ fields : List Field, (∀ f ∈ fields, f.Legal) →
      Paired (fields.flatMap Field.line ++ lineBreak) := by
    intro fields legal
    induction fields with
    | nil => exact paired_nil.line (s := []) nofun
    | cons f fields ih =>
      obtain ⟨legal, rest⟩ := List.forall_mem_cons.1 legal
      have inline : ∀ b ∈ f.name ++ colon :: f.value, b ≠ lf := by
        intro b mem
        rcases List.mem_append.1 mem with mem | mem
        · exact (ne_of_isToken (legal.name b mem)).1
        · rcases List.mem_cons.1 mem with rfl | mem
          · decide
          · exact (ne_of_isText (legal.value b mem)).1
      have shape : (f :: fields).flatMap Field.line ++ lineBreak =
          f.name ++ colon :: f.value ++ cr :: lf :: (fields.flatMap Field.line ++ lineBreak) := by
        simp [Field.line, lineBreak]
      rw [shape]
      exact (ih rest).line inline
  have inline : ∀ b ∈ r.method ++ space :: (ofText r.target ++ space :: (ofText "HTTP/1." ++
      [UInt8.ofNat (48 + r.minorVersion)])), b ≠ lf := by
    have version : ∀ b ∈ ofText "HTTP/1." ++ [UInt8.ofNat (48 + r.minorVersion)], b ≠ lf := by
      have le := legal.version
      obtain h | h : r.minorVersion = 0 ∨ r.minorVersion = 1 := by omega
      · rw [h]
        exact List.all_iff_forall_prop.1 (by decide)
      · rw [h]
        exact List.all_iff_forall_prop.1 (by decide)
    intro b mem
    rcases List.mem_append.1 mem with mem | mem
    · exact (ne_of_isToken (legal.method b mem)).1
    · rcases List.mem_cons.1 mem with rfl | mem
      · decide
      · rcases List.mem_append.1 mem with mem | mem
        · exact ne_lf_of_isTarget (spelled_visible.octets legal.target b mem)
        · rcases List.mem_cons.1 mem with rfl | mem
          · decide
          · exact version b mem
  have shape : r.lines = r.method ++ space :: (ofText r.target ++ space :: (ofText "HTTP/1." ++
      [UInt8.ofNat (48 + r.minorVersion)])) ++
        cr :: lf :: (r.fields.flatMap Field.line ++ lineBreak) := by
    simp [Request.lines, lineBreak]
  rw [shape]
  exact (fields r.fields legal.fields).line inline

/-! ## What is found -/

/-- What is to be said of a request. -/
def Request.verdict (r : Request) : Except HeadFault Head :=
  (hostOf r.trimmed).map fun host =>
    { length := r.lines.length
      method := String.ofList (r.method.map fun b => Char.ofNat b.toNat)
      host }

theorem length_fields_le (r : Request) : r.fields.length ≤ r.lines.length := by
  have fields : r.fields.length ≤ (r.fields.flatMap Field.line).length := by
    induction r.fields with
    | nil => exact Nat.zero_le _
    | cons f fields ih =>
      rw [List.flatMap_cons, List.length_append, Field.line, List.length_append]
      simp only [List.length_cons]
      omega
  simp only [Request.lines, List.length_append, List.length_cons]
  omega

/-- However many fields a request has, it is read whole. -/
theorem tells_lines {r : Request} (legal : r.Legal) : Tells r.lines r.verdict := by
  have reads := reads_lines legal (length_fields_le r) []
  rw [List.append_nil] at reads
  rw [Tells, parse_of_roomy (paired_lines legal).roomy, Head.parseIn, run_eq.2 reads]
  unfold Request.verdict
  rw [Head.ofAnswer, List.length_nil, Nat.sub_zero]
  cases hostOf r.trimmed <;> rfl

end Http

namespace Sniff

open Http

/-- What a stage found, without how much it looked at. -/
def hostFound (outcome : Outcome SniffError (Found Head)) : Outcome SniffError (Option String) :=
  outcome.map fun found => found.value.host

/-- The host that a request asks for, as the stage tells it. -/
def hostTold : Except HeadFault (Option String) → Outcome SniffError (Option String)
  | .ok host => .done host
  | .error f => .failed (.http f.message)

/-- A request at the front of a client's stream is found to ask for its host. -/
theorem httpHead_lines {r : Request} {client : Replay} (legal : r.Legal)
    (bounded : r.lines.length ≤ maxHead) (arrives : r.lines <+: client.yield) :
    hostFound (httpHead client).1 = hostTold (hostOf r.trimmed) := by
  have told := readHead_told (tells_lines legal) (paired_lines legal) bounded arrives
  simp only [hostFound, httpHead, peeking, told, Request.verdict]
  cases hostOf r.trimmed <;> rfl

end Sniff

end Sluice
