/-
Blank characters: the Unicode property White_Space.

* `isBlankChar`: the twenty-five characters of the property;
* `trimStart`, `trimEnd`, `trim`: text without blank characters at one end or
  at both;
* `isBlank`: text of blank characters only, the empty text included;
  `trim_eq_nil_iff` says that these are the texts of which nothing remains.
-/
namespace FieldRules.Text

/-- The characters with the Unicode property White_Space. -/
def isBlankChar (c : Char) : Bool :=
  let n := c.toNat
  (9 ≤ n && n ≤ 13) || n == 0x20 || n == 0x85 || n == 0xA0 || n == 0x1680 ||
    (0x2000 ≤ n && n ≤ 0x200A) || n == 0x2028 || n == 0x2029 || n == 0x202F ||
    n == 0x205F || n == 0x3000

/-- The text without its leading blank characters. -/
def trimStart (cs : List Char) : List Char :=
  cs.dropWhile isBlankChar

/-- The text without its trailing blank characters. -/
def trimEnd (cs : List Char) : List Char :=
  (cs.reverse.dropWhile isBlankChar).reverse

/-- The text without blank characters at either end. -/
def trim (cs : List Char) : List Char :=
  trimEnd (trimStart cs)

/-- A text is blank when all its characters are. -/
def isBlank (s : String) : Bool :=
  s.toList.all isBlankChar

/-! ### What trimming leaves -/

theorem trimStart_eq_nil_iff {cs : List Char} :
    trimStart cs = [] ↔ cs.all isBlankChar = true := by
  induction cs with
  | nil => simp [trimStart]
  | cons c r ih =>
    by_cases h : isBlankChar c = true
    · simp only [trimStart, List.dropWhile_cons, List.all_cons, h, if_true, Bool.true_and]
      exact ih
    · simp [trimStart, h]

theorem trimEnd_eq_nil_iff {cs : List Char} :
    trimEnd cs = [] ↔ cs.all isBlankChar = true := by
  have h := @trimStart_eq_nil_iff cs.reverse
  rw [List.all_reverse] at h
  rw [trimEnd, List.reverse_eq_nil_iff]
  exact h

/-- Dropping the leading blank characters changes nothing about being blank. -/
theorem all_trimStart (cs : List Char) :
    (trimStart cs).all isBlankChar = cs.all isBlankChar := by
  induction cs with
  | nil => rfl
  | cons c r ih =>
    by_cases h : isBlankChar c = true
    · simp only [trimStart, List.dropWhile_cons, List.all_cons, h, if_true, Bool.true_and]
      exact ih
    · simp [trimStart, h]

/-- Nothing remains of a text exactly when it is blank. -/
theorem trim_eq_nil_iff {cs : List Char} : trim cs = [] ↔ cs.all isBlankChar = true := by
  rw [trim, trimEnd_eq_nil_iff, all_trimStart]

end FieldRules.Text
