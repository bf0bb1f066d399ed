/-
Bounds at numbers that are equal.

* `Entity.DifferAt`: objects that differ in a number at the end of some names,
  and in nothing else;
* `Entity.Beside`, `DifferAt.beside_resolve`: what a path finds in the two;
* `NumericBound.usable?_number`, `LengthBound.ofValue?_number`: a number counts as
  a bound by the integer that it shows;
* `effective_congr`: the bounds are the same if the two numbers show the same;
* `equal_numbers_give_equal_bounds`: so equal numbers give the same verdict, but
  for decimal numbers of which one has places and the other has none.
-/
import FieldRules.Proofs.Number.Integral
import FieldRules.Proofs.Path.Stages
import FieldRules.Proofs.Rule.Bound
import FieldRules.Rule.Check

namespace FieldRules

namespace Entity

variable {a b : Number} {names : List String} {x y : Entity}

/-! ### Objects that differ in one number -/

/-- The objects have the numbers `a` and `b` at the end of the names, and look the same
otherwise. -/
inductive DifferAt (a b : Number) : List String → Entity → Entity → Prop
  /-- It is a number of the objects themselves. -/
  | here {x y : Entity} {name : String} (htype : x.typeName = y.typeName)
      (hx : x.field? name = some (.number a)) (hy : y.field? name = some (.number b))
      (hrest : ∀ other, other ≠ name → x.field? other = y.field? other) :
      DifferAt a b [name] x y
  /-- It is a number inside nested objects. -/
  | inside {x y x' y' : Entity} {name : String} {names : List String}
      (htype : x.typeName = y.typeName) (hx : x.field? name = some (.object x'))
      (hy : y.field? name = some (.object y'))
      (hrest : ∀ other, other ≠ name → x.field? other = y.field? other)
      (h : DifferAt a b names x' y') : DifferAt a b (name :: names) x y

/-- What one path finds in two objects that differ in two numbers: the same in both, the two
numbers, or an object in each. -/
inductive Beside (a b : Number) : Except PathError Value → Except PathError Value → Prop
  | same (found : Except PathError Value) : Beside a b found found
  | numbers : Beside a b (.ok (.number a)) (.ok (.number b))
  | objects (x y : Entity) : Beside a b (.ok (.object x)) (.ok (.object y))

/-- Objects of one type that have the same under the first name are walked alike. -/
lemma map_walk_congr {dotted name : String} (htype : x.typeName = y.typeName)
    (hname : x.field? name = y.field? name) (rest : List String) :
    (walk dotted (name :: rest) x).map Slot.value
      = (walk dotted (name :: rest) y).map Slot.value := by
  cases rest with
  | nil =>
      rw [walk, walk, hname, htype]
      cases hy : y.field? name with
      | none => rfl
      | some v => simp [Except.map, Slot.value, hname, hy]
  | cons next rest =>
      have hne : next :: rest = [] → False := List.cons_ne_nil next rest
      rw [walk.eq_3 _ _ _ _ hne, walk.eq_3 _ _ _ _ hne, hname, htype]

/-- Names find the same, the two numbers or an object in each. -/
lemma DifferAt.beside_walk (h : DifferAt a b names x y) (dotted : String) (path : List String) :
    Beside a b ((walk dotted path x).map Slot.value) ((walk dotted path y).map Slot.value) := by
  induction h generalizing path with
  | @here x y name htype hx hy hrest =>
      cases path with
      | nil => exact .same _
      | cons first rest =>
          by_cases hfirst : first = name
          · subst hfirst
            cases rest with
            | nil => simpa [walk, hx, hy, Except.map, Slot.value] using Beside.numbers
            | cons next rest => simpa [walk, hx, hy, Except.map] using Beside.same _
          · rw [map_walk_congr htype (hrest first hfirst)]
            exact .same _
  | @inside x y x' y' name names htype hx hy hrest _ ih =>
      cases path with
      | nil => exact .same _
      | cons first rest =>
          by_cases hfirst : first = name
          · subst hfirst
            cases rest with
            | nil => simpa [walk, hx, hy, Except.map, Slot.value] using Beside.objects x' y'
            | cons next rest => simpa [walk, hx, hy] using ih (next :: rest)
          · rw [map_walk_congr htype (hrest first hfirst)]
            exact .same _

/-- A path finds the same, the two numbers or an object in each. -/
lemma DifferAt.beside_resolve (h : DifferAt a b names x y) (p : Path) :
    Beside a b (x.resolve p) (y.resolve p) :=
  h.beside_walk p.dotted p.segments

/-- The two numbers are found at the end of the names. -/
lemma DifferAt.resolve_eq_ok (h : DifferAt a b names x y) {p : Path} (hp : p.segments = names) :
    x.resolve p = .ok (.number a) ∧ y.resolve p = .ok (.number b) := by
  rw [resolve_eq_ok_iff, resolve_eq_ok_iff, hp]
  clear hp
  induction h with
  | here _ hx hy _ => exact ⟨⟨[], _, _, rfl, .nil _, hx⟩, ⟨[], _, _, rfl, .nil _, hy⟩⟩
  | inside _ hx hy _ _ ih =>
      obtain ⟨⟨front, last, o, hsplit, hleads, ho⟩,
        ⟨front', last', o', hsplit', hleads', ho'⟩⟩ := ih
      exact ⟨⟨_ :: front, last, o, congrArg _ hsplit, .cons hx hleads, ho⟩,
        ⟨_ :: front', last', o', congrArg _ hsplit', .cons hy hleads', ho'⟩⟩

end Entity

variable {a b v : Number} {names : List String} {x y : Entity} {w : Width}

/-! ### Numbers as bounds -/

namespace NumericBound

/-- A number counts at a width of integers by the integer that it shows. -/
lemma usable?_number (hw : w ∈ Width.integers) (v : Number) :
    usable? (.number v) w = (v.integer?.bind w.ofInt?).filter fun n => !n.isZero := by
  rw [usable?, Value.literal?, Option.bind_some, Number.parse?_text_of_mem_integers hw]

/-- A number that shows no integer gives way to the configured bound. -/
lemma effective_of_no_integer (hw : w ∈ Width.integers) {bound : NumericBound} {p : Path}
    (hp : bound.path = some p) (hv : x.resolve p = .ok (.number v)) (h : v.integer? = none) :
    bound.effective x w = bound.configured w := by
  rw [effective_of_ok hp hv, usable?_number hw, h]
  rfl

/-- In objects that differ in numbers that show the same, the bounds are the same. -/
lemma effective_congr (h : x.DifferAt a b names y) (hshown : a.integer? = b.integer?)
    (hw : w ∈ Width.integers) (bound : NumericBound) :
    bound.effective x w = bound.effective y w := by
  cases hp : bound.path with
  | none => simp [effective, hp]
  | some p =>
      have husable : usable? (.number a) w = usable? (.number b) w := by
        rw [usable?_number hw, usable?_number hw, hshown]
      rw [effective, effective, hp]
      dsimp only
      have hfound := h.beside_resolve p
      generalize x.resolve p = found, y.resolve p = found' at hfound ⊢
      cases hfound with
      | same => rfl
      | numbers => simp [husable]
      | objects x' y' => rfl

end NumericBound

namespace LengthBound

/-- A number counts as a length by the integer that it shows. -/
lemma ofValue?_number (v : Number) :
    ofValue? (.number v)
      = (v.integer?.bind Integer.ofInt?).map fun (n : Integer 64) => n.val := by
  rw [ofValue?, Value.literal?, Option.bind_some, Integer.read?_text]
  intro s hs
  cases hs

/-- A number that shows an integer is the length if the integer is in range. -/
lemma effective_of_number {bound : LengthBound} {p : Path} (hp : bound.path = some p)
    (hv : x.resolve p = .ok (.number v)) :
    bound.effective x = .ok (match v.integer? with
      | none => bound.length
      | some i => if Width.long.Spans i then i else bound.length) := by
  rw [effective_of_ok hp hv, ofValue?_number]
  cases v.integer? with
  | none => rfl
  | some i =>
      by_cases hspans : Width.long.Spans i
      · have hheld : Integer.ofInt? i = some (⟨i, hspans.1, hspans.2⟩ : Integer 64) :=
          dif_pos hspans
        simp [hheld, hspans]
      · have hnone : (Integer.ofInt? i : Option (Integer 64)) = none := dif_neg hspans
        simp [hnone, hspans]

/-- In objects that differ in numbers that show the same, the lengths are the same. -/
lemma effective_congr (h : x.DifferAt a b names y) (hshown : a.integer? = b.integer?)
    (bound : LengthBound) : bound.effective x = bound.effective y := by
  cases hp : bound.path with
  | none => simp [effective, hp]
  | some p =>
      have hlength : ofValue? (.number a) = ofValue? (.number b) := by
        rw [ofValue?_number, ofValue?_number, hshown]
      rw [effective, effective, hp]
      dsimp only
      have hfound := h.beside_resolve p
      generalize x.resolve p = found, y.resolve p = found' at hfound ⊢
      cases hfound with
      | same => rfl
      | numbers => simp [hlength]
      | objects x' y' => rfl

end LengthBound

/-! ### Verdicts -/

/-- A comparison depends on the bounds at the width of the number alone. -/
lemma Comparison.holds_congr {n : Number}
    (hbound : ∀ bound : NumericBound, bound.effective x n.width = bound.effective y n.width)
    (c : Comparison) : c.holds x n = c.holds y n := by
  cases c <;> simp only [holds, hbound]

/-- A number that is accepted is the value, and of the width of the check. -/
lemma NumericCheck.accept_eq_ok {c : NumericCheck} {name : String} {value : Value} {n : Number}
    (h : c.accept name value = .ok n) : value = .number n ∧ c.width.getD n.width = n.width := by
  rw [accept] at h
  split at h
  · cases h
  · rename_i hnumber
    split at h
    · cases h
      cases value with
      | number n' =>
          cases hnumber
          exact ⟨rfl, ‹_›⟩
      | null | bool _ | text _ | list _ | object _ => cases hnumber
    · cases h

variable {X Y : Instance} {field : Field}

namespace Check

/-- A numeric check at a width of integers depends on the value and on the bounds at such widths. -/
lemma validate_numeric_congr (hvalue : field.get X.object = field.get Y.object)
    (hbound : ∀ bound : NumericBound, ∀ w ∈ Width.integers,
      bound.effective X.object w = bound.effective Y.object w)
    (c : NumericCheck)
    (hwidth : ∀ n, field.get X.object = .number n → c.width.getD n.width ∈ Width.integers)
    (m : Message) :
    (numeric c).validate field X m = (numeric c).validate field Y m := by
  rw [validate, validate, NumericCheck.passes, NumericCheck.passes, ← hvalue]
  cases haccept : c.accept field.name (field.get X.object) with
  | error e => rfl
  | ok n =>
      obtain ⟨hn, hequal⟩ := NumericCheck.accept_eq_ok haccept
      have hmem := hwidth n hn
      rw [hequal] at hmem
      dsimp only
      rw [Comparison.holds_congr fun bound => hbound bound n.width hmem]

end Check

/-! ### Places behind the point -/

/-- A decimal number without places shows an integer. -/
lemma Number.integer?_of_same_decimal (hsame : a.same b = true) (ha : a.hasPlaces = true)
    (hb : b.hasPlaces = false) : b.width = .decimal ∧ ∃ i, b.integer? = some i := by
  have hcompare : a.compare? b ≠ none := by
    intro hnone
    simp [same, hnone] at hsame
  cases a <;> cases b
  case decimal.decimal x y =>
    have hscale : y.scale = 0 := by simpa [hasPlaces] using hb
    exact ⟨rfl, y.coefficient, by rw [integer?, if_pos hscale]⟩
  all_goals first | cases ha | exact absurd rfl hcompare

/-- **Equal numbers give equal bounds**: if two objects differ in equal numbers at the end of some
names and in nothing else, then all bounds at widths of integers and all lengths are the same, and
so are the verdicts on a field that has the same value, of all numeric rules at such widths and of
all rules for lengths, unless one of the numbers is a decimal one with places behind the point and
the other is one without. In that case the number with places gives way to the configured bound, and
the one without is the bound if it is in range, and not zero where zero does not count. -/
theorem equal_numbers_give_equal_bounds (h : X.object.DifferAt a b names Y.object)
    (hsame : a.same b = true) :
    (a.hasPlaces = b.hasPlaces →
      (∀ bound : NumericBound, ∀ w ∈ Width.integers,
        bound.effective X.object w = bound.effective Y.object w) ∧
      (∀ bound : LengthBound, bound.effective X.object = bound.effective Y.object) ∧
      ∀ (field : Field) (m : Message), field.get X.object = field.get Y.object →
        (∀ c : NumericCheck,
          (∀ n, field.get X.object = .number n → c.width.getD n.width ∈ Width.integers) →
            (Check.numeric c).validate field X m = (Check.numeric c).validate field Y m) ∧
          ∀ bound, (Check.longer bound).validate field X m
              = (Check.longer bound).validate field Y m ∧
            (Check.shorter bound).validate field X m = (Check.shorter bound).validate field Y m) ∧
      (a.hasPlaces = true → b.hasPlaces = false →
        ∃ i, b.integer? = some i ∧ ∀ p, p.segments = names →
          (∀ (bound : NumericBound) (w : Width), bound.path = some p → w ∈ Width.integers →
            bound.effective X.object w = bound.configured w ∧
              (i ≠ 0 → w.Spans i →
                ∃ n, n.width = w ∧ n.integer? = some i ∧ bound.effective Y.object w = .ok n) ∧
              (i = 0 ∨ ¬w.Spans i → bound.effective Y.object w = bound.configured w)) ∧
            ∀ bound : LengthBound, bound.path = some p →
              bound.effective X.object = .ok bound.length ∧
                (Width.long.Spans i → bound.effective Y.object = .ok i) ∧
                (¬Width.long.Spans i → bound.effective Y.object = .ok bound.length)) := by
  constructor
  · intro hplaces
    have hshown : a.integer? = b.integer? := Number.integer?_congr hsame hplaces
    have hbound : ∀ bound : NumericBound, ∀ w ∈ Width.integers,
        bound.effective X.object w = bound.effective Y.object w := by
      intro bound w hw
      exact bound.effective_congr h hshown hw
    have hlength : ∀ bound : LengthBound, bound.effective X.object = bound.effective Y.object := by
      intro bound
      exact bound.effective_congr h hshown
    refine ⟨hbound, hlength, ?_⟩
    intro field m hvalue
    refine ⟨?_, ?_⟩
    · intro c hwidth
      exact Check.validate_numeric_congr hvalue hbound c hwidth m
    · intro bound
      simp only [Check.validate, hlength, hvalue, and_self]
  · intro ha hb
    obtain ⟨hdecimal, i, hi⟩ := Number.integer?_of_same_decimal hsame ha hb
    have hexact : b.width ∈ Width.exact := by simp [hdecimal, Width.exact]
    have hnone : a.integer? = none := Number.integer?_of_hasPlaces ha
    refine ⟨i, hi, ?_⟩
    intro p hp
    obtain ⟨hx, hy⟩ := h.resolve_eq_ok hp
    refine ⟨?_, ?_⟩
    · intro bound w hpath hw
      refine ⟨NumericBound.effective_of_no_integer hw hpath hx hnone, ?_⟩
      exact NumericBound.effective_of_integer? (Width.exact_of_mem_integers hw) hpath hy hexact hi
    · intro bound hpath
      rw [LengthBound.effective_of_number hpath hx, LengthBound.effective_of_number hpath hy, hnone,
        hi]
      refine ⟨rfl, ?_, ?_⟩
      · intro hspans
        simp [hspans]
      · intro hspans
        simp [hspans]

/-- An order with a count of eight and a limit. -/
def limitedOrder (limit : Number) : Instance :=
  (⟨"Order", [("Count", .number (.int ⟨8, by decide, by decide⟩)), ("Limit", .number limit)]⟩ :
    Entity)

/-- Two orders with a count of eight differ in their limits alone. -/
lemma limitedOrder_differAt (a b : Number) :
    (limitedOrder a).object.DifferAt a b ["Limit"] (limitedOrder b).object := by
  refine .here rfl rfl rfl ?_
  intro other hother
  have hne : (other == "Limit") = false := beq_false_of_ne hother
  simp [limitedOrder, Entity.field?, List.lookup_cons, hne]

/-- Five, with as many places behind the point. -/
def fiveWithPlaces (places : Fin 3) : Number :=
  .decimal ⟨false, 5 * 10 ^ places.val, places.val, by decide +revert, by decide +revert⟩

/-- The limit of an order, and ten where it is not usable. -/
def limitOrTen : NumericBound := ⟨"10", some ⟨["Limit"], false⟩⟩

/-- The bound that an order has for its count is the same for `5.0` and `5.00`, namely ten, and it
is five for `5`. -/
theorem limits_with_places_are_equal :
    (limitedOrder (fiveWithPlaces 1)).object.DifferAt (fiveWithPlaces 1) (fiveWithPlaces 2)
        ["Limit"] (limitedOrder (fiveWithPlaces 2)).object ∧
      (fiveWithPlaces 1).same (fiveWithPlaces 2) = true ∧
      (fiveWithPlaces 1).hasPlaces = (fiveWithPlaces 2).hasPlaces ∧
      Width.int ∈ Width.integers ∧
      limitOrTen.effective (limitedOrder (fiveWithPlaces 1)).object .int
        = limitOrTen.effective (limitedOrder (fiveWithPlaces 2)).object .int ∧
      (Field.ofKey "Count" "Count").get (limitedOrder (fiveWithPlaces 1)).object
        = (Field.ofKey "Count" "Count").get (limitedOrder (fiveWithPlaces 2)).object ∧
      (Check.numeric ⟨.lessThan limitOrTen, some .int⟩).validate (.ofKey "Count" "Count")
          (limitedOrder (fiveWithPlaces 1)) ⟨.error, "count"⟩
        = (Check.numeric ⟨.lessThan limitOrTen, some .int⟩).validate (.ofKey "Count" "Count")
          (limitedOrder (fiveWithPlaces 2)) ⟨.error, "count"⟩ ∧
      (fiveWithPlaces 2).same (fiveWithPlaces 0) = true ∧
      (fiveWithPlaces 2).hasPlaces = true ∧ (fiveWithPlaces 0).hasPlaces = false ∧
      limitOrTen.effective (limitedOrder (fiveWithPlaces 2)).object .int
        = limitOrTen.configured .int := by
  have hinteger : Width.int ∈ Width.integers := by decide
  obtain ⟨hequal, -⟩ := equal_numbers_give_equal_bounds
    (limitedOrder_differAt (fiveWithPlaces 1) (fiveWithPlaces 2)) (by decide)
  obtain ⟨hbound, -, hverdict⟩ := hequal (by decide)
  obtain ⟨hnumeric, -⟩ := hverdict (.ofKey "Count" "Count") ⟨.error, "count"⟩ rfl
  obtain ⟨-, hmixed⟩ := equal_numbers_give_equal_bounds
    (limitedOrder_differAt (fiveWithPlaces 2) (fiveWithPlaces 0)) (by decide)
  obtain ⟨i, -, hpath⟩ := hmixed (by decide) (by decide)
  obtain ⟨hconfigured, -⟩ := hpath ⟨["Limit"], false⟩ rfl
  exact ⟨limitedOrder_differAt _ _, by decide, by decide, hinteger, hbound limitOrTen .int hinteger,
    rfl, hnumeric ⟨.lessThan limitOrTen, some .int⟩ (fun _ _ => hinteger), by decide, by decide,
    by decide, (hconfigured limitOrTen .int rfl hinteger).1⟩

/-- The limits `5` and `5.00` are equal numbers, and the orders that have them are the same
otherwise. But the first limit is the bound for the count and for a length, and the second is not,
so that a count of eight fails and passes. -/
theorem whole_limit_differs_from_its_places :
    (limitedOrder (fiveWithPlaces 0)).object.DifferAt (fiveWithPlaces 0) (fiveWithPlaces 2)
        ["Limit"] (limitedOrder (fiveWithPlaces 2)).object ∧
      (fiveWithPlaces 0).same (fiveWithPlaces 2) = true ∧
      limitOrTen.effective (limitedOrder (fiveWithPlaces 0)).object .int
        = .ok (.int ⟨5, by decide, by decide⟩) ∧
      limitOrTen.effective (limitedOrder (fiveWithPlaces 2)).object .int
        = .ok (.int ⟨10, by decide, by decide⟩) ∧
      (LengthBound.mk 10 limitOrTen.path).effective (limitedOrder (fiveWithPlaces 0)).object
        = .ok 5 ∧
      (LengthBound.mk 10 limitOrTen.path).effective (limitedOrder (fiveWithPlaces 2)).object
        = .ok 10 ∧
      (Field.ofKey "Count" "Count").get (limitedOrder (fiveWithPlaces 0)).object
        = (Field.ofKey "Count" "Count").get (limitedOrder (fiveWithPlaces 2)).object ∧
      (Check.numeric ⟨.lessThan limitOrTen, some .int⟩).validate (.ofKey "Count" "Count")
          (limitedOrder (fiveWithPlaces 0)) ⟨.error, "count"⟩
        = .ok (some ⟨.error, "count"⟩) ∧
      (Check.numeric ⟨.lessThan limitOrTen, some .int⟩).validate (.ofKey "Count" "Count")
          (limitedOrder (fiveWithPlaces 2)) ⟨.error, "count"⟩
        = .ok none :=
  ⟨limitedOrder_differAt _ _, by decide, by decide, by decide, by decide, by decide, rfl, by decide,
    by decide⟩

end FieldRules
