/-
Strings of JSON are read as they were written.

* `escapeChar_cases`: a character is written by a letter after a backslash, by
  its code, or as it is;
* `readString_quoted`: what was written between quotes is read, whatever follows;
* `skipString_quoted`, `skipAny_quote`: it is skipped as a whole as well.
-/
import FieldRules.Json.Skip
import Mathlib.Data.List.Basic
import Mathlib.Tactic.Lemma

namespace FieldRules.Json

/-- A hexadecimal digit has the value that it was made of. -/
lemma hexValue?_hexDigit : ∀ n < 16, hexValue? (hexDigit n) = some n := by
  decide

/-- A character is written by a letter after a backslash, by its code, or as it is. -/
lemma escapeChar_cases (c : Char) :
    (∃ letter, letter ≠ 'u' ∧ shortEscapes.lookup letter = some c ∧
        escapeChar c = ['\\', letter]) ∨
      (c.toNat < 0x20 ∧ escapeChar c
        = ['\\', 'u', '0', '0', hexDigit (c.toNat / 16), hexDigit (c.toNat % 16)]) ∨
      (¬c.toNat < 0x20 ∧ c ≠ '"' ∧ c ≠ '\\' ∧ escapeChar c = [c]) := by
  rw [escapeChar.eq_def]
  split
  case h_1 => exact .inl ⟨'"', by decide, rfl, rfl⟩
  case h_2 => exact .inl ⟨'\\', by decide, rfl, rfl⟩
  case h_3 => exact .inl ⟨'b', by decide, rfl, rfl⟩
  case h_4 => exact .inl ⟨'f', by decide, rfl, rfl⟩
  case h_5 => exact .inl ⟨'n', by decide, rfl, rfl⟩
  case h_6 => exact .inl ⟨'r', by decide, rfl, rfl⟩
  case h_7 => exact .inl ⟨'t', by decide, rfl, rfl⟩
  case h_8 hquote hbackslash _ _ _ _ _ =>
    by_cases h : c.toNat < 0x20
    · exact .inr (.inl ⟨h, if_pos h⟩)
    · exact .inr (.inr ⟨h, hquote, hbackslash, if_neg h⟩)

/-- A control character is the one that its code stands for. -/
lemma ofNat_code {c : Char} : Char.ofNat (c.toNat / 16 * 16 + c.toNat % 16) = c := by
  rw [Nat.div_add_mod', Char.ofNat_toNat]

/-- A character is read as it was written. -/
lemma readString_escapeChar (c : Char) (cs : List Char) :
    readString .plain (escapeChar c ++ cs) = (readString .plain cs).map (pushChar c) := by
  rcases escapeChar_cases c with ⟨letter, hu, hlookup, h⟩ | ⟨hlt, h⟩ | ⟨hnot, hquote, hback, h⟩
  · rw [h]
    simp [readString, hu, hlookup]
  · have hhigh := hexValue?_hexDigit (c.toNat / 16) (by omega)
    have hlow := hexValue?_hexDigit (c.toNat % 16) (by omega)
    have hzero : hexValue? '0' = some 0 := by decide
    have hcode : finishCode (c.toNat / 16 * 16 + c.toNat % 16) none = some (.inl c) := by
      rw [finishCode, if_neg (by omega), if_neg (by omega), ofNat_code]
    rw [h]
    simp [readString, hhigh, hlow, hzero, hcode]
  · rw [h]
    simp [readString, hquote, hback, hnot]

/-- What was written between quotes is read, whatever follows. -/
lemma readString_quoted (cs rest : List Char) :
    readString .plain (cs.flatMap escapeChar ++ '"' :: rest) = some (cs, rest) := by
  induction cs with
  | nil => rfl
  | cons c r ih =>
      rw [List.flatMap_cons, List.append_assoc, readString_escapeChar, ih]
      rfl

/-- A character is skipped as it was written. -/
lemma skipString_escapeChar (c : Char) (cs : List Char) :
    skipString .plain (escapeChar c ++ cs) = skipString .plain cs := by
  rcases escapeChar_cases c with ⟨letter, hu, hlookup, h⟩ | ⟨hlt, h⟩ | ⟨hnot, hquote, hback, h⟩
  · rw [h]
    simp [skipString, hu, hlookup]
  · have hhigh := hexValue?_hexDigit (c.toNat / 16) (by omega)
    have hlow := hexValue?_hexDigit (c.toNat % 16) (by omega)
    have hzero : hexValue? '0' = some 0 := by decide
    rw [h]
    simp [skipString, hhigh, hlow, hzero]
  · rw [h]
    simp [skipString, hquote, hback, hnot]

/-- What was written between quotes is skipped, whatever follows. -/
lemma skipString_quoted (cs rest : List Char) :
    skipString .plain (cs.flatMap escapeChar ++ '"' :: rest) = some rest := by
  induction cs with
  | nil => rfl
  | cons c r ih => rw [List.flatMap_cons, List.append_assoc, skipString_escapeChar, ih]

/-- A string is a value that can be skipped. -/
lemma skipAny_quote (cs rest : List Char) : skipAny (quote cs ++ rest) = some rest := by
  rw [skipAny, quote, List.append_assoc, List.cons_append, skipValue]
  exact skipString_quoted cs rest

end FieldRules.Json
