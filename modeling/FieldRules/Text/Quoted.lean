/-
Quoted text: a text between double quotes in which every character can be told
apart.

* `escapeChar`: quotes and backslashes after a backslash, the common controls by
  a letter, other unshown characters by their code point in braces;
* `quoted`: the whole text.
-/
import FieldRules.Text.Unprintable

namespace FieldRules.Text

/-- How one character is written between quotes. -/
def escapeChar (c : Char) : List Char :=
  match c with
  | '"' => ['\\', '"']
  | '\\' => ['\\', '\\']
  | '\n' => ['\\', 'n']
  | '\r' => ['\\', 'r']
  | '\t' => ['\\', 't']
  | '\x00' => ['\\', '0']
  | c =>
    if isShown c then [c]
    else ['\\', 'u', '\x7b'] ++ Nat.toDigits 16 c.toNat ++ ['\x7d']

/-- The text between double quotes. -/
def quoted (s : String) : String :=
  String.ofList ('"' :: s.toList.flatMap escapeChar ++ ['"'])

end FieldRules.Text
