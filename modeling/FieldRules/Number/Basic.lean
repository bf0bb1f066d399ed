/-
Numbers of the six widths that a field can have.

* `Width`, `Number`: the widths, and a number of one of them;
* `Width.read?`: the numeral of a number of this width; `Width.parse?` allows
  blank characters around it;
* `Number.compare?`: numbers compare with numbers of their own width only;
* `Number.text`, `Number.outline`: the numeral, and a display that tells the
  width.
-/
import FieldRules.Number.Binary.Read
import FieldRules.Number.Binary.Shortest
import FieldRules.Number.Decimal.Read
import FieldRules.Number.Integer
import FieldRules.Text.Blank
import FieldRules.Text.Outline

namespace FieldRules

/-- The kinds of number that a field can hold. -/
inductive Width where
  /-- Integers of sixteen bits. -/
  | short
  /-- Integers of thirty-two bits. -/
  | int
  /-- Integers of sixty-four bits. -/
  | long
  /-- Floating-point numbers of single precision. -/
  | float
  /-- Floating-point numbers of double precision. -/
  | double
  /-- Decimal numbers. -/
  | decimal
  deriving DecidableEq

/-- A number together with its width. -/
inductive Number where
  /-- An integer of sixteen bits. -/
  | short (n : Integer 16)
  /-- An integer of thirty-two bits. -/
  | int (n : Integer 32)
  /-- An integer of sixty-four bits. -/
  | long (n : Integer 64)
  /-- A floating-point number of single precision. -/
  | float (x : Binary .single)
  /-- A floating-point number of double precision. -/
  | double (x : Binary .double)
  /-- A decimal number. -/
  | decimal (x : Decimal)
  deriving DecidableEq

namespace Width

/-- The name of a width in messages. -/
def name : Width → String
  | short => "short"
  | int => "int"
  | long => "long"
  | float => "float"
  | double => "double"
  | decimal => "decimal"

/-- Reads a number of this width from its numeral. -/
def readChars? (w : Width) (cs : List Char) : Option Number :=
  match w with
  | short => (Integer.read? cs).map .short
  | int => (Integer.read? cs).map .int
  | long => (Integer.read? cs).map .long
  | float => (Binary.read? cs).map .float
  | double => (Binary.read? cs).map .double
  | decimal => (Decimal.read? cs).map .decimal

/-- Reads a number of this width from its numeral alone. -/
def read? (w : Width) (s : String) : Option Number :=
  w.readChars? s.toList

/-- Reads a number of this width from its numeral, with blank characters around it or not. -/
def parse? (w : Width) (s : String) : Option Number :=
  w.readChars? (Text.trim s.toList)

end Width

namespace Number

/-- The width of the number. -/
def width : Number → Width
  | short _ => .short
  | int _ => .int
  | long _ => .long
  | float _ => .float
  | double _ => .double
  | decimal _ => .decimal

/-- Whether the number is a zero of its width. -/
def isZero : Number → Bool
  | short n => n.val == 0
  | int n => n.val == 0
  | long n => n.val == 0
  | float x => x.isZero
  | double x => x.isZero
  | decimal x => x.isZero

/-- The order of two numbers of one width. -/
def compare? : Number → Number → Option Ordering
  | short a, short b => some (compare a.val b.val)
  | int a, int b => some (compare a.val b.val)
  | long a, long b => some (compare a.val b.val)
  | float a, float b => a.compare? b
  | double a, double b => a.compare? b
  | decimal a, decimal b => some (a.compare b)
  | _, _ => none

/-- The numbers compare, and the first is the smaller one. -/
def less (a b : Number) : Bool :=
  a.compare? b == some .lt

/-- The numbers compare, and they are equal. -/
def same (a b : Number) : Bool :=
  a.compare? b == some .eq

/-- The numbers compare, and the first is not the greater one. -/
def atMost (a b : Number) : Bool :=
  a.less b || a.same b

/-- The numeral of the number. -/
def text : Number → String
  | short n => n.text
  | int n => n.text
  | long n => n.text
  | float x => x.text
  | double x => x.text
  | decimal x => x.text

/-- A display of the number that tells its width. -/
def outline : Number → String
  | short n => Text.Outline.tuple "Short" [n.text]
  | int n => Text.Outline.tuple "Int" [n.text]
  | long n => Text.Outline.tuple "Long" [n.text]
  | float x => Text.Outline.tuple "Float" [x.exactText]
  | double x => Text.Outline.tuple "Double" [x.exactText]
  | decimal x => Text.Outline.tuple "Decimal" [x.text]

/-- A number that is read at a width has this width. -/
theorem width_of_readChars? {w : Width} {cs : List Char} {n : Number}
    (h : w.readChars? cs = some n) : n.width = w := by
  cases w <;> obtain ⟨_, _, rfl⟩ := Option.map_eq_some_iff.1 h <;> rfl

end Number

end FieldRules
