/-
Skipping values of JSON that nobody asked for.

* `skipSpace`: the four characters of white space between tokens;
* `skipNumber`, `skipWord`: the leaves;
* `skipValue`: any value. Each call takes at least one character, so the length
  of the text is fuel enough.
-/
import FieldRules.Json.Text

namespace FieldRules.Json

/-- Space, tab, line feed and carriage return. -/
def isSpace (c : Char) : Bool :=
  c == ' ' || c == '\t' || c == '\n' || c == '\r'

/-- The text without the white space in front. -/
def skipSpace (cs : List Char) : List Char :=
  cs.dropWhile isSpace

/-- Skips at least one digit. -/
def skipDigits : List Char → Option (List Char)
  | [] => none
  | c :: cs => if c.isDigit then some (cs.dropWhile Char.isDigit) else none

/-- Skips the whole part of a number: a zero alone, or digits that begin with no zero. -/
def skipWhole : List Char → Option (List Char)
  | [] => none
  | c :: cs =>
    if c = '0' then if (cs.head?.map Char.isDigit).getD false then none else some cs
    else skipDigits (c :: cs)

/-- Skips a point and the digits that must follow it, if there is one. -/
def skipPlaces : List Char → Option (List Char)
  | '.' :: cs => skipDigits cs
  | cs => some cs

/-- Skips a sign, if there is one. -/
def skipSign : List Char → List Char
  | '+' :: cs => cs
  | '-' :: cs => cs
  | cs => cs

/-- Skips an exponent, if there is one. -/
def skipExponent : List Char → Option (List Char)
  | 'e' :: cs => skipDigits (skipSign cs)
  | 'E' :: cs => skipDigits (skipSign cs)
  | cs => some cs

/-- Skips a number. -/
def skipNumber (cs : List Char) : Option (List Char) :=
  let unsigned :=
    match cs with
    | '-' :: r => r
    | r => r
  (skipWhole unsigned).bind fun r => (skipPlaces r).bind skipExponent

/-- Skips the given characters. -/
def skipWord (word cs : List Char) : Option (List Char) :=
  if word.isPrefixOf cs then some (cs.drop word.length) else none

mutual

/-- Skips a value, with at most `fuel` steps. -/
def skipValue : Nat → List Char → Option (List Char)
  | 0, _ => none
  | fuel + 1, cs =>
    match skipSpace cs with
    | [] => none
    | '"' :: r => skipString .plain r
    | '[' :: r =>
      match skipSpace r with
      | ']' :: r => some r
      | r => skipItems fuel r
    | '\x7b' :: r =>
      match skipSpace r with
      | '\x7d' :: r => some r
      | r => skipMembers fuel r
    | 't' :: r => skipWord ['r', 'u', 'e'] r
    | 'f' :: r => skipWord ['a', 'l', 's', 'e'] r
    | 'n' :: r => skipWord ['u', 'l', 'l'] r
    | r => skipNumber r

/-- Skips the values of a list, at least one, and the bracket after them. -/
def skipItems : Nat → List Char → Option (List Char)
  | 0, _ => none
  | fuel + 1, cs =>
    match (skipValue fuel cs).map skipSpace with
    | some (',' :: r) => skipItems fuel r
    | some (']' :: r) => some r
    | _ => none

/-- Skips the members of an object, at least one, and the brace after them. -/
def skipMembers : Nat → List Char → Option (List Char)
  | 0, _ => none
  | fuel + 1, cs =>
    match skipSpace cs with
    | '"' :: r =>
      match (skipString .plain r).map skipSpace with
      | some (':' :: r) =>
        match (skipValue fuel r).map skipSpace with
        | some (',' :: r) => skipMembers fuel r
        | some ('\x7d' :: r) => some r
        | _ => none
      | _ => none
    | _ => none

end

/-- Skips a value. -/
def skipAny (cs : List Char) : Option (List Char) :=
  skipValue (2 * cs.length + 1) cs

end FieldRules.Json
