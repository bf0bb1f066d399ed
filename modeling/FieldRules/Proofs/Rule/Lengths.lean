/-
Rules for lengths, from below and from above.

* `Value.HasLength`: texts have a length, and nothing counts as a text without
  characters;
* `LengthBound.effective_eq_error_iff`: there is a bound unless its path leads
  nowhere;
* `LengthBound.ofValue?_eq_none`, `ofValue?_of_text`, `ofValue?_of_integers`: the
  values that take the place of the configured length, beside texts;
* `Check.isTooShort_iff`, `isTooLong_iff`: a length is too short below the bound,
  and at zero, and it is too long above the bound;
* `length_rules_are_dual`: so the two rules agree on lengths that are the bound,
  and on no others.
-/
import FieldRules.Proofs.Rule.EqualNumbers
import FieldRules.Proofs.Rule.Errors

namespace FieldRules

/-- The value is a text of so many characters, or it is nothing and there are none. -/
inductive Value.HasLength : Value → Nat → Prop
  | text (s : String) : HasLength (.text s) s.length
  | null : HasLength .null 0

namespace LengthBound

/-! ### The bound -/

/-- There is no bound if and only if the path leads nowhere. -/
lemma effective_eq_error_iff {bound : LengthBound} {x : Entity} {e : Error} :
    bound.effective x = .error e ↔
      ∃ p cause, bound.path = some p ∧ x.resolve p = .error cause ∧ e = .path cause := by
  constructor
  · intro h
    obtain ⟨p, hp, cause, hlocate, rfl⟩ := strays_of_effective h
    exact ⟨p, cause, hp, Entity.resolve_eq_error_iff.mpr hlocate, rfl⟩
  · rintro ⟨p, cause, hp, hresolve, rfl⟩
    simp only [effective, hp, hresolve]

/-! ### Values as lengths -/

/-- Values other than texts and numbers stand for no length. -/
lemma ofValue?_eq_none {v : Value} (htext : ∀ s, v ≠ .text s) (hnumber : ∀ n, v ≠ .number n) :
    ofValue? v = none := by
  cases v with
  | null | list _ | object _ => rfl
  | bool flag => cases flag <;> rfl
  | text s => exact absurd rfl (htext s)
  | number n => exact absurd rfl (hnumber n)

/-- A number stands for the integer that its text is read as. -/
lemma ofValue?_of_text (n : Number) :
    ofValue? (.number n) = (Integer.read? n.text.toList).map fun (k : Integer 64) => k.val := by
  rw [ofValue?_number, ← Integer.read?_text, n.isTrimmed_text.trim_eq]

/-- An integer stands for itself. -/
lemma ofValue?_of_integers {n : Number} {k : Int} (hn : n.width ∈ Width.integers)
    (hk : n.integer? = some k) : ofValue? (.number n) = some k := by
  have hheld : ∀ {bits : Nat} (i : Integer bits), bits ≤ 64 →
      (Integer.ofInt? i.val : Option (Integer 64)).map Integer.val = some i.val := by
    intro bits i hbits
    have hhalf : Integer.half bits ≤ Integer.half 64 :=
      Nat.pow_le_pow_right (by decide) (by omega)
    have hlow := i.lower
    have hhigh := i.upper
    rw [Integer.ofInt?, dif_pos (by omega), Option.map_some]
  rw [ofValue?_number, hk, Option.bind_some]
  cases n with
  | short i | int i | long i =>
      obtain rfl := Option.some.inj hk
      exact hheld i (by decide)
  | float _ | double _ | decimal _ => simp [Width.integers, Number.width] at hn

end LengthBound

namespace Check

variable {bound : LengthBound} {field : Field} {x : Instance} {m : Message} {b : Int} {v : Value}

/-! ### Verdicts -/

/-- The check of the field reports nothing. -/
def Passes (c : Check) (field : Field) (x : Instance) (m : Message) : Prop :=
  c.validate field x m = .ok none

/-- The check of the field reports its message. -/
def Fails (c : Check) (field : Field) (x : Instance) (m : Message) : Prop :=
  c.validate field x m = .ok (some m)

/-- A check that reports its message in one case, and nothing in the other, has both verdicts. -/
lemma verdicts_of_validate {c : Check} {failed : Bool}
    (h : c.validate field x m = .ok (if failed then some m else none)) :
    (c.Passes field x m ↔ ¬failed = true) ∧ (c.Fails field x m ↔ failed = true) := by
  rw [Passes, Fails, h]
  cases failed <;> simp

lemma verdicts_longer (field : Field) (m : Message) (hb : bound.effective x.object = .ok b) :
    ((longer bound).Passes field x m ↔ ¬isTooShort b (field.get x.object) = true) ∧
      ((longer bound).Fails field x m ↔ isTooShort b (field.get x.object) = true) :=
  verdicts_of_validate (by rw [validate, hb]; rfl)

lemma verdicts_shorter (field : Field) (m : Message) (hb : bound.effective x.object = .ok b) :
    ((shorter bound).Passes field x m ↔ ¬isTooLong b (field.get x.object) = true) ∧
      ((shorter bound).Fails field x m ↔ isTooLong b (field.get x.object) = true) :=
  verdicts_of_validate (by rw [validate, hb]; rfl)

/-- A length is too short below the bound, and at zero. -/
lemma isTooShort_iff {n : Nat} (h : v.HasLength n) :
    isTooShort b v = true ↔ (n : Int) < b ∨ n = 0 := by
  cases h with
  | text s => simp [isTooShort, textLength?]
  | null => simp [isTooShort, textLength?]

/-- A length is too long above the bound. -/
lemma isTooLong_iff {n : Nat} (h : v.HasLength n) : isTooLong b v = true ↔ b < n := by
  cases h with
  | text s => simp [isTooLong, textLength?]
  | null => simp [isTooLong, textLength?]

/-- A value that is neither a text nor nothing is too short, and not too long. -/
lemma tooShort_of_lengthless (b : Int) (htext : ∀ s, v ≠ .text s) (hnull : v ≠ .null) :
    isTooShort b v = true ∧ ¬isTooLong b v = true := by
  cases v with
  | text s => exact absurd rfl (htext s)
  | null => exact absurd rfl hnull
  | bool _ | number _ | list _ | object _ => exact ⟨rfl, Bool.false_ne_true⟩

/-- Both rules for lengths have an error if and only if there is no bound, and it is that error. -/
lemma validate_eq_error_iff {e : Error} :
    ((longer bound).validate field x m = .error e ↔ bound.effective x.object = .error e) ∧
      ((shorter bound).validate field x m = .error e ↔ bound.effective x.object = .error e) := by
  rw [validate, validate]
  cases bound.effective x.object <;> simp [Except.map]

/-- **The two rules for lengths**: a text, with as many characters as it has, or nothing, with
none, passes the rule from below if it has characters, and no fewer than the bound, and it passes
the rule from above if it has no more. So with one bound it never fails both if it has characters,
and passes both exactly at the bound, and without characters it fails the rule from below whatever
the bound is. All other values fail the one and pass the other.

The rules have no verdict if and only if the path of the bound leads nowhere, which is then the
error. A text at its path gives its length, and an integer of any width gives itself, zero included,
as does any number with the text of an integer of sixty-four bits. Instead of other numbers, and of
other values, the configured length counts. -/
theorem length_rules_are_dual (bound : LengthBound) (field : Field) (x : Instance) (m : Message) :
    (∀ b n, bound.effective x.object = .ok b → (field.get x.object).HasLength n →
      ((longer bound).Passes field x m ↔ b ≤ n ∧ 0 < n) ∧
        ((longer bound).Fails field x m ↔ n < b ∨ n = 0) ∧
        ((shorter bound).Passes field x m ↔ n ≤ b) ∧
        ((shorter bound).Fails field x m ↔ b < n) ∧
        (0 < n →
          ¬((longer bound).Fails field x m ∧ (shorter bound).Fails field x m) ∧
          ((longer bound).Passes field x m ∧ (shorter bound).Passes field x m ↔ n = b)) ∧
        (n = 0 → (longer bound).Fails field x m)) ∧
      (∀ b, bound.effective x.object = .ok b → (∀ s, field.get x.object ≠ .text s) →
        field.get x.object ≠ .null →
        (longer bound).Fails field x m ∧ (shorter bound).Passes field x m) ∧
      (∀ e, ((longer bound).validate field x m = .error e ↔
            ∃ p cause, bound.path = some p ∧ x.object.resolve p = .error cause ∧ e = .path cause) ∧
          ((shorter bound).validate field x m = .error e ↔
            ∃ p cause, bound.path = some p ∧ x.object.resolve p = .error cause ∧
              e = .path cause)) ∧
      (bound.path = none → bound.effective x.object = .ok bound.length) ∧
      ∀ p v, bound.path = some p → x.object.resolve p = .ok v →
        (∀ s, v = .text s → bound.effective x.object = .ok s.length) ∧
          ((∀ s, v ≠ .text s) → (∀ n, v ≠ .number n) →
            bound.effective x.object = .ok bound.length) ∧
          (∀ n (k : Integer 64), v = .number n → Integer.read? n.text.toList = some k →
            bound.effective x.object = .ok k.val) ∧
          (∀ n, v = .number n → (Integer.read? n.text.toList : Option (Integer 64)) = none →
            bound.effective x.object = .ok bound.length) ∧
          ∀ n k, v = .number n → n.width ∈ Width.integers → n.integer? = some k →
            bound.effective x.object = .ok k := by
  refine ⟨?_, ?_, ?_, ?_, ?_⟩
  · intro b n hb hn
    obtain ⟨hpasses, hfails⟩ := verdicts_longer field m hb
    obtain ⟨hpasses', hfails'⟩ := verdicts_shorter field m hb
    rw [isTooShort_iff hn] at hpasses hfails
    rw [isTooLong_iff hn] at hpasses' hfails'
    rw [hpasses, hfails, hpasses', hfails']
    refine ⟨?_, ?_, ?_, ?_, ?_, ?_⟩ <;> omega
  · intro b hb htext hnull
    obtain ⟨hshort, hlong⟩ := tooShort_of_lengthless b htext hnull
    exact ⟨(verdicts_longer field m hb).2.mpr hshort, (verdicts_shorter field m hb).1.mpr hlong⟩
  · intro e
    rw [← LengthBound.effective_eq_error_iff]
    exact validate_eq_error_iff
  · intro hp
    simp only [LengthBound.effective, hp]
  · intro p v hp hv
    rw [LengthBound.effective_of_ok hp hv]
    refine ⟨?_, ?_, ?_, ?_, ?_⟩
    · rintro s rfl
      rfl
    · intro htext hnumber
      rw [LengthBound.ofValue?_eq_none htext hnumber, Option.getD_none]
    · rintro n k rfl hread
      rw [LengthBound.ofValue?_of_text, hread, Option.map_some, Option.getD_some]
    · rintro n rfl hread
      rw [LengthBound.ofValue?_of_text, hread, Option.map_none, Option.getD_none]
    · rintro n k rfl hn hk
      rw [LengthBound.ofValue?_of_integers hn hk, Option.getD_some]

/-- A title of three characters, two of them outside ASCII, and a limit of three. -/
def titled : Instance :=
  (⟨"Page", [("Title", .text "été"), ("Limit", .number (.short ⟨3, by decide, by decide⟩))]⟩ :
    Entity)

/-- The limit of a page, and nine where that is no length. -/
def limitOrNine : LengthBound := ⟨9, some ⟨["Limit"], false⟩⟩

/-- A title that is as long as its limit passes both rules. -/
theorem title_at_its_limit_passes :
    limitOrNine.effective titled.object = .ok 3 ∧
      ((Field.ofKey "Title" "Title").get titled.object).HasLength 3 ∧
      (longer limitOrNine).Passes (.ofKey "Title" "Title") titled ⟨.error, "title"⟩ ∧
      (shorter limitOrNine).Passes (.ofKey "Title" "Title") titled ⟨.error, "title"⟩ := by
  obtain ⟨hlengths, -, -, -, hbound⟩ :=
    length_rules_are_dual limitOrNine (.ofKey "Title" "Title") titled ⟨.error, "title"⟩
  obtain ⟨-, -, -, -, hinteger⟩ := hbound ⟨["Limit"], false⟩ _ rfl rfl
  have heffective : limitOrNine.effective titled.object = .ok 3 :=
    hinteger (.short ⟨3, by decide, by decide⟩) 3 rfl (by decide) rfl
  have hlength : ((Field.ofKey "Title" "Title").get titled.object).HasLength 3 := .text "été"
  obtain ⟨-, -, -, -, hboth, -⟩ := hlengths 3 3 heffective hlength
  obtain ⟨hlonger, hshorter⟩ := (hboth (by decide)).2.mpr rfl
  exact ⟨heffective, hlength, hlonger, hshorter⟩

end Check

end FieldRules
