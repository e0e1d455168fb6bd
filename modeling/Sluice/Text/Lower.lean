/-
  ASCII letters made small.
-/

namespace Sluice

/-- A text with its capital ASCII letters made small. -/
def lowerText (text : String) : String :=
  String.ofList (text.toList.map Char.toLower)

end Sluice
