/-
  Square brackets around a text, as around an IPv6 address in a URL.
-/

namespace Sluice

/-- A text without the brackets before and behind it, however many there are. -/
def unbracketed (text : List Char) : List Char :=
  ((text.dropWhile (· == '[')).reverse.dropWhile (· == ']')).reverse

end Sluice
