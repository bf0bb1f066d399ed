/-
Objects under validation.

* `Instance`: an object together with its messages and the localizer of their
  texts; it is what a check of the object may look at.
-/
import FieldRules.Localizer
import FieldRules.Store
import FieldRules.Value

namespace FieldRules

/-- An object under validation. -/
structure Instance where
  /-- The object. -/
  object : Entity
  /-- The localizer of the texts that its rules report. -/
  localizer : Option Localizer
  /-- Its messages. -/
  store : Store

/-- An object by itself, without a localizer and without messages. -/
instance : Coe Entity Instance := ⟨fun e => ⟨e, none, .empty⟩⟩

end FieldRules
