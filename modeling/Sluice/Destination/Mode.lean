import Sluice.Text.Lower

/-
  How the destination of a connection is found.
-/

namespace Sluice

/-- Where the destination of a connection is written. -/
inductive Mode where
  /-- In the address that the connection arrived at. -/
  | direct
  /-- In the NAT table that sent it here. -/
  | redirect
  deriving DecidableEq, Repr

namespace Mode

def text : Mode → String
  | direct => "direct"
  | redirect => "redirect"

instance : ToString Mode := ⟨text⟩

/-- The mode that a text in small letters names. -/
def ofName? : String → Option Mode
  | "direct" => some direct
  | "redirect" => some redirect
  | "nat" => some redirect
  | _ => none

/-- The mode that a text names. -/
def parse? (text : String) : Option Mode :=
  ofName? (lowerText text)

/-- What is said of a text that names no mode. -/
def unknownMessage (text : String) : String :=
  s!"unknown mode '{lowerText text}' (expected direct or redirect)"

end Mode

end Sluice
