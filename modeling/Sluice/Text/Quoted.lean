import Sluice.Text.Digits
import Sluice.Unicode.Printable

/-
  A text in double quotes, on one line and with nothing invisible in it: what would not show as
  itself is written by its number, a few characters by a letter of their own.
-/

namespace Sluice.Quoted

open Unicode

/-- A character as it stands between the quotes. -/
def encodeChar (c : Char) : List Char :=
  match c with
  | '\x00' => ['\\', '0']
  | '\t' => ['\\', 't']
  | '\r' => ['\\', 'r']
  | '\n' => ['\\', 'n']
  | '"' => ['\\', '"']
  | '\\' => ['\\', '\\']
  | c =>
    if extendsGrapheme c || !isPrintable c then
      "\\u\x7b".toList ++ Digits.ofNat 16 c.toNat ++ ['\x7d']
    else [c]

/-- A text in quotes. -/
def quote (text : String) : String :=
  String.ofList ('"' :: text.toList.flatMap encodeChar ++ ['"'])

end Sluice.Quoted
