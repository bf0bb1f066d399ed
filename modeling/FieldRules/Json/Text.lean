/-
Strings of JSON.

* `escapeChar`, `quote`: writing; quotes, backslashes and controls are escaped,
  all else stands as it is;
* `StringState`, `readString`: reading what follows an opening quote, one
  character at a time; escapes of code points above `0xFFFF` come in two halves,
  and a half that stands alone is an error;
* `skipString`: the same without looking at the code points.
-/
namespace FieldRules.Json

/-- The letters that stand for a character after a backslash. -/
def shortEscapes : List (Char × Char) :=
  [('"', '"'), ('\\', '\\'), ('/', '/'), ('b', '\x08'), ('f', '\x0C'), ('n', '\n'), ('r', '\r'),
    ('t', '\t')]

/-- The digit of a number below sixteen. -/
def hexDigit (n : Nat) : Char :=
  Nat.digitChar n

/-- The value of a hexadecimal digit in either case. -/
def hexValue? (c : Char) : Option Nat :=
  if c.isDigit then some (c.toNat - '0'.toNat)
  else if 'a' ≤ c ∧ c ≤ 'f' then some (c.toNat - 'a'.toNat + 10)
  else if 'A' ≤ c ∧ c ≤ 'F' then some (c.toNat - 'A'.toNat + 10)
  else none

/-! ### Writing -/

/-- How one character is written in a string. -/
def escapeChar (c : Char) : List Char :=
  match c with
  | '"' => ['\\', '"']
  | '\\' => ['\\', '\\']
  | '\x08' => ['\\', 'b']
  | '\x0C' => ['\\', 'f']
  | '\n' => ['\\', 'n']
  | '\r' => ['\\', 'r']
  | '\t' => ['\\', 't']
  | c =>
    if c.toNat < 0x20 then
      ['\\', 'u', '0', '0', hexDigit (c.toNat / 16), hexDigit (c.toNat % 16)]
    else [c]

/-- The text as a string of JSON. -/
def quote (cs : List Char) : List Char :=
  '"' :: cs.flatMap escapeChar ++ ['"']

/-! ### Reading -/

/-- Where a reader stands within a string. -/
inductive StringState where
  /-- Between two characters. -/
  | plain
  /-- After a backslash. -/
  | escaped
  /-- After the first `digits` of the four digits of a code, of value `value`; `high` is the first
  half of a code point, read before. -/
  | code (digits value : Nat) (high : Option Nat)
  /-- After the first half of a code point. -/
  | half (high : Nat)
  /-- After the first half of a code point and a backslash. -/
  | halfEscaped (high : Nat)

/-- What a complete code of four digits amounts to: a character, or the first half of one. -/
def finishCode (code : Nat) : Option Nat → Option (Char ⊕ Nat)
  | none =>
    if 0xD800 ≤ code ∧ code < 0xDC00 then some (.inr code)
    else if 0xDC00 ≤ code ∧ code < 0xE000 then none
    else some (.inl (Char.ofNat code))
  | some high =>
    if 0xDC00 ≤ code ∧ code < 0xE000 then
      some (.inl (Char.ofNat (0x10000 + (high - 0xD800) * 0x400 + (code - 0xDC00))))
    else none

/-- Adds a character in front of what is read. -/
def pushChar (c : Char) : List Char × List Char → List Char × List Char
  | (s, rest) => (c :: s, rest)

/-- Reads a string up to its closing quote. Gives its characters and the text after the quote. -/
def readString : StringState → List Char → Option (List Char × List Char)
  | _, [] => none
  | .plain, c :: cs =>
    if c = '"' then some ([], cs)
    else if c = '\\' then readString .escaped cs
    else if c.toNat < 0x20 then none
    else (readString .plain cs).map (pushChar c)
  | .escaped, c :: cs =>
    if c = 'u' then readString (.code 0 0 none) cs
    else
      match shortEscapes.lookup c with
      | some d => (readString .plain cs).map (pushChar d)
      | none => none
  | .code digits value high, c :: cs =>
    match hexValue? c with
    | none => none
    | some d =>
      let value := value * 16 + d
      if digits < 3 then readString (.code (digits + 1) value high) cs
      else
        match finishCode value high with
        | some (.inl x) => (readString .plain cs).map (pushChar x)
        | some (.inr high) => readString (.half high) cs
        | none => none
  | .half high, c :: cs => if c = '\\' then readString (.halfEscaped high) cs else none
  | .halfEscaped high, c :: cs =>
    if c = 'u' then readString (.code 0 0 (some high)) cs else none

/-- Where a skipper stands within a string. -/
inductive SkipState where
  /-- Between two characters. -/
  | plain
  /-- After a backslash. -/
  | escaped
  /-- Before the last digits of a code. -/
  | code (left : Nat)

/-- Skips a string up to its closing quote. Gives the text after the quote. -/
def skipString : SkipState → List Char → Option (List Char)
  | _, [] => none
  | .plain, c :: cs =>
    if c = '"' then some cs
    else if c = '\\' then skipString .escaped cs
    else if c.toNat < 0x20 then none
    else skipString .plain cs
  | .escaped, c :: cs =>
    if c = 'u' then skipString (.code 3) cs
    else if (shortEscapes.lookup c).isSome then skipString .plain cs
    else none
  | .code left, c :: cs =>
    if (hexValue? c).isNone then none
    else
      match left with
      | 0 => skipString .plain cs
      | left + 1 => skipString (.code left) cs

end FieldRules.Json
