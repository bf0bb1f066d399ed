/-
Settings that come from outside, as texts.

* `parseCapacity`: how many events a subscriber may fall behind;
* `LogFormat`: the form of log lines;
* `Settings`: both; `Settings.ofTexts` reads them, and a text that makes no
  sense counts as none.
-/
import FieldRules.Number.Numeral
import FieldRules.Text.Blank

namespace FieldRules

/-- The capacity when none is asked for. -/
def defaultCapacity : Nat := 64

/-- The greatest capacity that can be asked for. -/
def maxCapacity : Nat := Nat.pow 2 64 - 1

/-- Reads a capacity, with blank characters around it or not. It is at least one. -/
def parseCapacity (raw : Option String) : Nat :=
  match raw.bind fun s => Numeral.natural? (Text.trim s.toList) with
  | some n => if n ≤ maxCapacity then max n 1 else defaultCapacity
  | none => defaultCapacity

/-- Capacities are positive. -/
theorem parseCapacity_pos (raw : Option String) : 0 < parseCapacity raw := by
  unfold parseCapacity
  split
  · split
    · omega
    · decide
  · decide

/-- The form of log lines. -/
inductive LogFormat where
  /-- Lines for people. -/
  | text
  /-- One object a line. -/
  | json
  deriving DecidableEq

namespace LogFormat

/-- The word for the form. -/
def name : LogFormat → String
  | text => "text"
  | json => "json"

/-- Reads the word for a form, in letters of either case. The words are ASCII, and no other
character has one of their letters as its small form, so ASCII letters are all that is turned. -/
def parse? (raw : String) : Option LogFormat :=
  let word := String.ofList ((Text.trim raw.toList).map Char.toLower)
  if word = "json" then some json else if word = "text" then some text else none

end LogFormat

/-- What can be set from outside. -/
structure Settings where
  /-- How many events a subscriber may fall behind. -/
  eventCapacity : Nat
  /-- The form of log lines. -/
  logFormat : LogFormat
  deriving DecidableEq

namespace Settings

/-- The settings when nothing is asked for. -/
def standard : Settings := ⟨defaultCapacity, .text⟩

/-- Reads the two settings. -/
def ofTexts (capacity logFormat : Option String) : Settings where
  eventCapacity := parseCapacity capacity
  logFormat := (logFormat.bind LogFormat.parse?).getD .text

end Settings

end FieldRules
