/-
The integer that the text of a number shows.

* `Number.integer?`: this integer; a text with a point shows none, nor does that
  of an infinity or of what is not a number;
* `Integer.read?_text`: the text is read as this integer if it is in range;
* `Number.integer?_congr`: equal numbers show the same, unless one of them is a
  decimal number with places and the other is one without;
* `Width.exact`, `Width.integers`: the widths whose numbers are just what their
  texts show, and those of integers;
* `Width.Spans`, `Width.ofInt?`: the integers that have a number of an exact
  width, and this number;
* `parse?_text`: an integer is carried over to an exact width by its text.
-/
import FieldRules.Number.Basic
import FieldRules.Proofs.Number.Binary
import FieldRules.Proofs.Number.Decimal

namespace FieldRules

open Numeral

variable {bits : Nat}

/-! ### The text of a number -/

/-- The integer that the text of a floating-point number shows. -/
def Binary.integer? {f : Format} : Binary f → Option Int
  | nan => none
  | infinite _ => none
  | finite negative m q _ =>
    if m = 0 then some 0
    else if 0 ≤ (shortest f m q).2 then
      some (withSign negative ((shortest f m q).1 * 10 ^ (shortest f m q).2.toNat))
    else none

/-- The integer that the text of a number shows. -/
def Number.integer? : Number → Option Int
  | short n => some n.val
  | int n => some n.val
  | long n => some n.val
  | float x => x.integer?
  | double x => x.integer?
  | decimal x => if x.scale = 0 then some x.coefficient else none

/-- A numeral is the text of an integer if there are no places. -/
lemma Integer.read?_fixed_eq (negative : Bool) (n places : Nat) :
    (read? (signed negative (fixed n places)) : Option (Integer bits))
      = if places = 0 then ofInt? (withSign negative n) else none := by
  split
  · subst places
    rw [fixed_zero, read?_signed]
  · exact read?_fixed negative n ‹_›

namespace Binary

variable {f : Format}

lemma toList_text_nan : (nan : Binary f).text.toList = ['N', 'a', 'N'] :=
  String.toList_ofList

lemma toList_text_infinite (negative : Bool) :
    (infinite negative : Binary f).text.toList = Numeral.signed negative ['i', 'n', 'f'] := by
  have hword : "inf".toList = ['i', 'n', 'f'] := String.toList_ofList
  rw [text.eq_def]
  dsimp only
  rw [hword]
  exact String.toList_ofList

/-- The text of a finite number is a numeral with its sign. -/
lemma toList_text_finite (negative : Bool) {m : Nat} {q : Int} (h : f.Canonical m q) :
    (finite negative m q h).text.toList = Numeral.signed negative
      (if m = 0 then fixed 0 0
        else positional (shortest f m q).1 (shortest f m q).2) := by
  rw [text.eq_def]
  dsimp only
  split <;> exact String.toList_ofList

lemma isTrimmed_text (x : Binary f) : Text.IsTrimmed x.text.toList := by
  cases x with
  | nan =>
      rw [toList_text_nan]
      exact Text.isTrimmed_of_forall (by simp [Text.isBlankChar])
  | infinite negative =>
      rw [toList_text_infinite]
      cases negative <;> exact Text.isTrimmed_of_forall (by simp [Numeral.signed, Text.isBlankChar])
  | finite negative m q h =>
      rw [toList_text_finite]
      split <;> exact isTrimmed_signed_fixed negative _ _

/-- The text of a number is read as the integer that it shows. -/
lemma read?_text (x : Binary f) :
    (Integer.read? x.text.toList : Option (Integer bits)) = x.integer?.bind Integer.ofInt? := by
  cases x with
  | nan =>
      rw [toList_text_nan]
      rfl
  | infinite negative =>
      rw [toList_text_infinite]
      cases negative <;> rfl
  | finite negative m q h =>
      rw [toList_text_finite, integer?]
      split
      · have hzero : withSign negative 0 = 0 := by cases negative <;> rfl
        rw [Integer.read?_fixed_eq, if_pos rfl, hzero]
        rfl
      · rw [positional, Integer.read?_fixed_eq]
        by_cases hexp : 0 ≤ (shortest f m q).2
        · rw [if_pos hexp, if_pos (by omega)]
          rfl
        · rw [if_neg hexp, if_neg (by omega)]
          rfl

end Binary

namespace Number

lemma isTrimmed_text (v : Number) : Text.IsTrimmed v.text.toList := by
  have hinteger : ∀ i : Int, Text.IsTrimmed (String.ofList (Integer.digits i)).toList := by
    intro i
    rw [String.toList_ofList, Integer.digits_eq_signed, ← fixed_zero]
    exact isTrimmed_signed_fixed _ _ 0
  cases v with
  | short n | int n | long n => exact hinteger n.val
  | float x | double x => exact x.isTrimmed_text
  | decimal x =>
      rw [text, Decimal.toList_text]
      exact isTrimmed_signed_fixed _ _ _

end Number

lemma withSign_natAbs (i : Int) : withSign (decide (i < 0)) i.natAbs = i := by
  rw [withSign]
  by_cases hi : i < 0
  · rw [if_pos (decide_eq_true hi)]
    omega
  · rw [if_neg (by simpa using hi)]
    omega

/-- The text of a number is read as the integer that it shows, if that is in range. -/
lemma Integer.read?_text (v : Number) :
    (read? (Text.trim v.text.toList) : Option (Integer bits)) = v.integer?.bind ofInt? := by
  have hinteger : ∀ i : Int,
      (read? (String.ofList (digits i)).toList : Option (Integer bits)) = ofInt? i := by
    intro i
    rw [String.toList_ofList, digits_eq_signed, read?_signed, withSign_natAbs]
  rw [v.isTrimmed_text.trim_eq]
  cases v with
  | short n | int n | long n => exact hinteger n.val
  | float x | double x => exact x.read?_text
  | decimal x =>
      rw [Number.text, Decimal.toList_text, read?_fixed_eq, Number.integer?]
      split <;> rfl

/-! ### Equal numbers -/

/-- Whether the number is a decimal one with places behind the point. -/
def Number.hasPlaces : Number → Bool
  | decimal x => x.scale != 0
  | _ => false

/-- A decimal number with places shows no integer. -/
lemma Number.integer?_of_hasPlaces {v : Number} (h : v.hasPlaces = true) : v.integer? = none := by
  cases v with
  | decimal x =>
      rw [integer?, if_neg]
      simpa [hasPlaces] using h
  | short _ | int _ | long _ | float _ | double _ => cases h

lemma Binary.integer?_of_isZero {f : Format} {x : Binary f} (h : x.isZero = true) :
    x.integer? = some 0 := by
  cases x with
  | nan | infinite _ => cases h
  | finite negative m q _ =>
      rw [integer?, if_pos]
      simpa [isZero] using h

lemma Binary.integer?_congr {f : Format} {x y : Binary f} (h : x.compare? y = some .eq) :
    x.integer? = y.integer? := by
  rcases eq_or_isZero h with rfl | ⟨hx, hy⟩
  · rfl
  · rw [integer?_of_isZero hx, integer?_of_isZero hy]

/-- Equal numbers show the same integer, or none, unless one of them is a decimal number with places
and the other is not. -/
lemma Number.integer?_congr {a b : Number} (h : a.same b = true) (hp : a.hasPlaces = b.hasPlaces) :
    a.integer? = b.integer? := by
  have hcompare : a.compare? b = some .eq := by simpa [same] using h
  cases a <;> cases b
  case short.short | int.int | long.long =>
    have hval := Int.compare_eq_eq.mp (Option.some.inj hcompare)
    simp [integer?, hval]
  case float.float | double.double => exact Binary.integer?_congr hcompare
  case decimal.decimal x y =>
    have hunits : x.units = y.units := Int.compare_eq_eq.mp (Option.some.inj hcompare)
    by_cases hx : x.scale = 0
    · have hy : y.scale = 0 := by simpa [hasPlaces, hx] using hp.symm
      rw [Decimal.units_eq_iff (hx.trans hy.symm)] at hunits
      simp [integer?, hx, hy, hunits]
    · have hy : y.scale ≠ 0 := by
        intro hy
        simp [hasPlaces, hx, hy] at hp
      simp [integer?, hx, hy]
  all_goals cases hcompare

/-! ### Exact widths -/

namespace Width

/-- The widths of integers. -/
def integers : List Width := [.short, .int, .long]

/-- The widths of integers and of decimal numbers, whose numbers are just what their texts show. -/
def exact : List Width := [.short, .int, .long, .decimal]

lemma exact_of_mem_integers {w : Width} (h : w ∈ integers) : w ∈ exact := by
  simp only [integers, exact, List.mem_cons, List.not_mem_nil, or_false] at h ⊢
  rcases h with rfl | rfl | rfl <;> simp

/-- The integers that are the value of a number of this width, if it is an exact one. -/
def Spans : Width → Int → Prop
  | short, i => -2 ^ 15 ≤ i ∧ i < 2 ^ 15
  | int, i => -2 ^ 31 ≤ i ∧ i < 2 ^ 31
  | long, i => -2 ^ 63 ≤ i ∧ i < 2 ^ 63
  | decimal, i => -2 ^ 96 < i ∧ i < 2 ^ 96
  | float, _ => False
  | double, _ => False

instance : (w : Width) → (i : Int) → Decidable (w.Spans i)
  | short, i => inferInstanceAs (Decidable (-2 ^ 15 ≤ i ∧ i < 2 ^ 15))
  | int, i => inferInstanceAs (Decidable (-2 ^ 31 ≤ i ∧ i < 2 ^ 31))
  | long, i => inferInstanceAs (Decidable (-2 ^ 63 ≤ i ∧ i < 2 ^ 63))
  | decimal, i => inferInstanceAs (Decidable (-2 ^ 96 < i ∧ i < 2 ^ 96))
  | float, _ => inferInstanceAs (Decidable False)
  | double, _ => inferInstanceAs (Decidable False)

/-- The number of an exact width that shows the integer. -/
def ofInt? : Width → Int → Option Number
  | short, i => (Integer.ofInt? i).map .short
  | int, i => (Integer.ofInt? i).map .int
  | long, i => (Integer.ofInt? i).map .long
  | decimal, i => (Decimal.ofParts? (decide (i < 0)) i.natAbs 0).map .decimal
  | float, _ => none
  | double, _ => none

variable {w : Width} {i : Int}

/-- An integer in range is the value of a number. -/
lemma ofInt?_of_spans (h : w.Spans i) :
    ∃ n, w.ofInt? i = some n ∧ n.width = w ∧ n.integer? = some i := by
  cases w with
  | short =>
      have hheld : Integer.ofInt? i = some (⟨i, h.1, h.2⟩ : Integer 16) := dif_pos h
      exact ⟨.short ⟨i, h.1, h.2⟩, congrArg (Option.map Number.short) hheld, rfl, rfl⟩
  | int =>
      have hheld : Integer.ofInt? i = some (⟨i, h.1, h.2⟩ : Integer 32) := dif_pos h
      exact ⟨.int ⟨i, h.1, h.2⟩, congrArg (Option.map Number.int) hheld, rfl, rfl⟩
  | long =>
      have hheld : Integer.ofInt? i = some (⟨i, h.1, h.2⟩ : Integer 64) := dif_pos h
      exact ⟨.long ⟨i, h.1, h.2⟩, congrArg (Option.map Number.long) hheld, rfl, rfl⟩
  | float | double => cases h
  | decimal =>
      have hfits : i.natAbs < Decimal.mantissaBound := by
        have hbound : Decimal.mantissaBound = 2 ^ 96 := rfl
        obtain ⟨hlow, hhigh⟩ := h
        omega
      refine ⟨.decimal ⟨decide (i < 0), i.natAbs, 0, hfits, Nat.zero_le _⟩, ?_, rfl, ?_⟩
      · simp [ofInt?, Decimal.ofParts?, hfits]
      · exact congrArg some (withSign_natAbs i)

/-- An integer out of range is the value of no number. -/
lemma ofInt?_of_not_spans (h : ¬w.Spans i) : w.ofInt? i = none := by
  cases w with
  | short | int | long =>
      rw [ofInt?, Integer.ofInt?, dif_neg]
      · rfl
      · exact h
  | float | double => rfl
  | decimal =>
      rw [ofInt?, Decimal.ofParts?, dif_neg]
      · rfl
      · rintro ⟨hfits, -⟩
        have hbound : Decimal.mantissaBound = 2 ^ 96 := rfl
        refine h ⟨?_, ?_⟩ <;> omega

end Width

namespace Number

variable {v n : Number} {w : Width} {i : Int}

/-- A number of an exact width is zero exactly if it shows a zero. -/
lemma isZero_of_integer? (hexact : v.width ∈ Width.exact) (h : v.integer? = some i) :
    v.isZero = (i == 0) := by
  cases v with
  | short n | int n | long n =>
      obtain rfl := Option.some.inj h
      rfl
  | float x | double x => simp [Width.exact, width] at hexact
  | decimal x =>
      rw [integer?] at h
      split at h
      · obtain rfl := Option.some.inj h
        rw [isZero, Decimal.isZero, Decimal.coefficient, withSign, Bool.eq_iff_iff, beq_iff_eq,
          beq_iff_eq]
        split <;> omega
      · cases h

/-- What a number of an exact width shows fits a decimal number. -/
lemma toList_text_of_integer? (hexact : v.width ∈ Width.exact) (h : v.integer? = some i) :
    ∃ negative magnitude, v.text.toList = signed negative (fixed magnitude 0) ∧
      i = withSign negative magnitude ∧ magnitude < Decimal.mantissaBound := by
  have hbound : Decimal.mantissaBound = 2 ^ 96 := rfl
  have hinteger : ∀ {bits : Nat} (n : Integer bits), bits ≤ 64 →
      n.text.toList = signed (decide (n.val < 0)) (fixed n.val.natAbs 0) ∧
        n.val.natAbs < Decimal.mantissaBound := by
    intro bits n hbits
    refine ⟨?_, ?_⟩
    · rw [Integer.text, String.toList_ofList, Integer.digits_eq_signed, fixed_zero]
    · have hhalf : Integer.half bits ≤ 2 ^ 63 := Nat.pow_le_pow_right (by decide) (by omega)
      have hlow := n.lower
      have hhigh := n.upper
      omega
  cases v with
  | short n | int n | long n =>
      obtain rfl := Option.some.inj h
      obtain ⟨htext, hfits⟩ := hinteger n (by decide)
      exact ⟨_, _, htext, (withSign_natAbs _).symm, hfits⟩
  | float x | double x => simp [Width.exact, width] at hexact
  | decimal x =>
      rw [integer?] at h
      split at h
      · rename_i hscale
        refine ⟨x.negative, x.mantissa, ?_, (Option.some.inj h).symm, x.mantissa_lt⟩
        rw [text, Decimal.toList_text, hscale]
      · cases h

/-- The text of a number stands at a width of integers for the integer that it shows. -/
lemma parse?_text_of_mem_integers (hw : w ∈ Width.integers) (v : Number) :
    w.parse? v.text = v.integer?.bind w.ofInt? := by
  have hread : ∀ (bits : Nat) (f : Integer bits → Number),
      (Integer.read? (Text.trim v.text.toList)).map f
        = v.integer?.bind fun i => (Integer.ofInt? i).map f := by
    intro bits f
    rw [Integer.read?_text]
    cases v.integer? <;> rfl
  cases w with
  | short | int | long => exact hread _ _
  | float | double | decimal => simp [Width.integers] at hw

/-- An integer is carried over to an exact width by its text. -/
lemma parse?_text (hw : w ∈ Width.exact) (hexact : v.width ∈ Width.exact)
    (h : v.integer? = some i) : w.parse? v.text = w.ofInt? i := by
  cases w with
  | short | int | long =>
      rw [parse?_text_of_mem_integers (by simp [Width.integers]), h]
      rfl
  | float | double => simp [Width.exact] at hw
  | decimal =>
      obtain ⟨negative, magnitude, htext, rfl, hfits⟩ := toList_text_of_integer? hexact h
      rw [Width.parse?, v.isTrimmed_text.trim_eq, htext, Width.readChars?, Decimal.read?,
        Decimal.readPlain?_signed negative hfits (Nat.zero_le _), Width.ofInt?]
      cases negative <;>
        simp [withSign, Decimal.ofParts?, hfits, bne, Nat.pos_iff_ne_zero, Bool.beq_eq_decide_eq]

end Number

end FieldRules
