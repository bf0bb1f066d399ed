/-
Localized texts.

* `Localizer`: a text for each key, or none;
* `Localizer.ofPairs`, `Localizer.wrapping`: a table, in which the last pair of
  a key counts, and the localizer that shows the keys themselves;
* `localize`: the text for a key if there is one that is not blank, otherwise a
  given text.
-/
import FieldRules.Text.Blank

namespace FieldRules

/-- The text for each key that has one. -/
abbrev Localizer := String → Option String

namespace Localizer

/-- The localizer of a table. Of two pairs with one key the later counts. -/
def ofPairs (pairs : List (String × String)) : Localizer :=
  fun key => pairs.reverse.lookup key

/-- The localizer that puts every key between two texts. -/
def wrapping (left right : String) : Localizer :=
  fun key => some (left ++ key ++ right)

end Localizer

/-- What the localizer has for the key. A blank key is not looked up, and blank text does not
count. -/
def localized? (localizer : Option Localizer) (key : Option String) : Option String := do
  let l ← localizer
  let k ← key
  if Text.isBlank k then none
  else (l k).filter (!Text.isBlank ·)

/-- The localized text for the key, or the given one. -/
def localize (localizer : Option Localizer) (key : Option String) (fallback : String) : String :=
  (localized? localizer key).getD fallback

end FieldRules
