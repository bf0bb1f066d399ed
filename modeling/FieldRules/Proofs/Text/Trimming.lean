/-
What trimming leaves of a text.

* `head?_trim`: trimming keeps the first character that is not blank;
* `trim_blank_append`, `trim_append_blank`: blank characters at either end do
  not matter;
* `trimStart_trimEnd`: the two ends may be trimmed in either order;
* `Text.IsTrimmed`: a text that neither begins nor ends with a blank character;
* `isTrimmed_trim`, `IsTrimmed.trim_eq`: trimming leads to such texts and leaves
  them alone.
-/
import FieldRules.Text.Blank
import Mathlib.Data.List.Basic
import Mathlib.Data.List.TakeWhile
import Mathlib.Tactic.Lemma

namespace FieldRules.Text

variable {cs ws : List Char}

/-! ### In front -/

/-- The first character that is not blank comes first once the text is trimmed in front. -/
lemma head?_trimStart (cs : List Char) :
    (trimStart cs).head? = cs.find? fun c => !isBlankChar c := by
  simp [trimStart, List.find?_eq_head?_dropWhile_not]

/-- A text that is not blank is trimmed in front as if nothing followed it. -/
lemma trimStart_append (h : trimStart cs ≠ []) (r : List Char) :
    trimStart (cs ++ r) = trimStart cs ++ r := by
  rw [trimStart, List.dropWhile_append, if_neg (by simpa [trimStart] using h)]
  rfl

/-- Blank characters in front of a text do not matter to trimming in front. -/
lemma trimStart_blank_append (hws : ws.all isBlankChar = true) (cs : List Char) :
    trimStart (ws ++ cs) = trimStart cs := by
  rw [trimStart, List.dropWhile_append_of_pos (by simpa using hws)]
  rfl

/-- Trimming in front stops at a character that is not blank. -/
lemma trimStart_append_cons {c : Char} (hc : isBlankChar c = false) (cs r : List Char) :
    trimStart (cs ++ c :: r) = trimStart cs ++ c :: r := by
  cases h : trimStart cs with
  | nil =>
      rw [trimStart_blank_append (trimStart_eq_nil_iff.mp h), trimStart,
        List.dropWhile_cons_of_neg (by simp [hc])]
      rfl
  | cons d ds => rw [trimStart_append (by simp [h]), h]

/-- What trimming takes away in front is blank. -/
lemma exists_trimStart (cs : List Char) :
    ∃ ws, ws.all isBlankChar = true ∧ ws ++ trimStart cs = cs :=
  ⟨cs.takeWhile isBlankChar, List.all_takeWhile, List.takeWhile_append_dropWhile⟩

/-! ### Behind -/

lemma trimEnd_eq_reverse (cs : List Char) : trimEnd cs = (trimStart cs.reverse).reverse := rfl

/-- What trimming takes away behind is blank. -/
lemma exists_trimEnd (cs : List Char) :
    ∃ ws, ws.all isBlankChar = true ∧ trimEnd cs ++ ws = cs := by
  obtain ⟨ws, hws, hcs⟩ := exists_trimStart cs.reverse
  refine ⟨ws.reverse, by rwa [List.all_reverse], ?_⟩
  rw [trimEnd_eq_reverse, ← List.reverse_append, hcs, List.reverse_reverse]

/-- Blank characters behind a text do not matter to trimming behind. -/
lemma trimEnd_append_blank (hws : ws.all isBlankChar = true) (cs : List Char) :
    trimEnd (cs ++ ws) = trimEnd cs := by
  rw [trimEnd_eq_reverse, List.reverse_append, trimStart_blank_append (by simpa using hws)]
  rfl

/-- Trimming behind stops at a character that is not blank. -/
lemma trimEnd_append_cons {c : Char} (hc : isBlankChar c = false) (cs r : List Char) :
    trimEnd (cs ++ c :: r) = cs ++ c :: trimEnd r := by
  rw [trimEnd_eq_reverse, List.reverse_append, List.reverse_cons, List.append_assoc,
    List.singleton_append, trimStart_append_cons hc, List.reverse_append, List.reverse_cons,
    List.reverse_reverse, ← trimEnd_eq_reverse, List.append_assoc, List.singleton_append]

/-! ### At both ends -/

/-- Trimming at both ends stops at a character that is not blank. -/
lemma trim_append_cons {c : Char} (hc : isBlankChar c = false) (cs r : List Char) :
    trim (cs ++ c :: r) = trimStart cs ++ c :: trimEnd r := by
  rw [trim, trimStart_append_cons hc, trimEnd_append_cons hc]

/-- A text is blank, or it has a first character that is not. -/
lemma blank_or_first (cs : List Char) :
    cs.all isBlankChar = true ∨
      ∃ ws c r, cs = ws ++ c :: r ∧ ws.all isBlankChar = true ∧ isBlankChar c = false := by
  induction cs with
  | nil => exact .inl rfl
  | cons c r ih =>
      by_cases hc : isBlankChar c = true
      · rcases ih with hr | ⟨ws, d, s, rfl, hws, hd⟩
        · exact .inl (by rw [List.all_cons, hc, hr]; rfl)
        · exact .inr ⟨c :: ws, d, s, rfl, by rw [List.all_cons, hc, hws]; rfl, hd⟩
      · exact .inr ⟨[], c, r, rfl, rfl, by simpa using hc⟩

/-- The two ends may be trimmed in either order. -/
lemma trimStart_trimEnd (cs : List Char) : trimStart (trimEnd cs) = trim cs := by
  rcases blank_or_first cs with h | ⟨ws, c, r, rfl, _, hc⟩
  · rw [trimEnd_eq_nil_iff.mpr h, trim_eq_nil_iff.mpr h]
    rfl
  · rw [trimEnd_append_cons hc, trimStart_append_cons hc, trim_append_cons hc]

/-- Blank characters in front of a text do not matter to trimming at both ends. -/
lemma trim_blank_append (hws : ws.all isBlankChar = true) (cs : List Char) :
    trim (ws ++ cs) = trim cs := by
  rw [trim, trimStart_blank_append hws]
  rfl

/-- Blank characters behind a text do not matter to trimming at both ends. -/
lemma trim_append_blank (hws : ws.all isBlankChar = true) (cs : List Char) :
    trim (cs ++ ws) = trim cs := by
  rw [← trimStart_trimEnd, trimEnd_append_blank hws, trimStart_trimEnd]

/-- Trimming at both ends keeps the first character that is not blank. -/
lemma head?_trim (cs : List Char) : (trim cs).head? = cs.find? fun c => !isBlankChar c := by
  rw [← head?_trimStart]
  rcases blank_or_first cs with h | ⟨ws, c, r, rfl, hws, hc⟩
  · rw [trim_eq_nil_iff.mpr h, trimStart_eq_nil_iff.mpr h]
  · rw [trim_append_cons hc, trimStart_append_cons hc, trimStart_eq_nil_iff.mpr hws]
    rfl

/-- A text that neither begins nor ends with a blank character. -/
structure IsTrimmed (cs : List Char) : Prop where
  /-- The first character. -/
  first : ∀ c, cs.head? = some c → isBlankChar c = false
  /-- The last character. -/
  last : ∀ c, cs.getLast? = some c → isBlankChar c = false

/-- A text without blank characters is trimmed. -/
lemma isTrimmed_of_forall (h : ∀ c ∈ cs, isBlankChar c = false) : IsTrimmed cs where
  first := fun c hc => h c (List.mem_of_mem_head? hc)
  last := fun c hc => h c (List.mem_of_getLast? hc)

/-- What is left after trimming is trimmed. -/
lemma isTrimmed_trim (cs : List Char) : IsTrimmed (trim cs) where
  first := by
    intro c hc
    rw [head?_trim] at hc
    simpa using List.find?_some hc
  last := by
    intro c hc
    rw [trim, trimEnd_eq_reverse, List.getLast?_reverse, head?_trimStart] at hc
    simpa using List.find?_some hc

/-- Nothing is in front of a trimmed text. -/
lemma IsTrimmed.trimStart_eq (h : IsTrimmed cs) : trimStart cs = cs := by
  cases cs with
  | nil => rfl
  | cons c r =>
      rw [trimStart, List.dropWhile_cons_of_neg]
      simp [h.first c rfl]

lemma IsTrimmed.reverse (h : IsTrimmed cs) : IsTrimmed cs.reverse where
  first := fun c hc => h.last c (by rwa [List.head?_reverse] at hc)
  last := fun c hc => h.first c (by rwa [List.getLast?_reverse] at hc)

/-- A trimmed text stays as it is. -/
lemma IsTrimmed.trim_eq (h : IsTrimmed cs) : trim cs = cs := by
  rw [trim, h.trimStart_eq, trimEnd_eq_reverse, h.reverse.trimStart_eq, List.reverse_reverse]

/-- A character that is not blank may come first. -/
lemma IsTrimmed.cons {c : Char} (hc : isBlankChar c = false) (h : IsTrimmed cs) :
    IsTrimmed (c :: cs) where
  first := by
    rintro d ⟨⟩
    exact hc
  last := by
    intro d hd
    cases cs with
    | nil =>
        cases hd
        exact hc
    | cons e r =>
        rw [List.getLast?_cons_cons] at hd
        exact h.last d hd

/-- Trimmed texts with something between them are trimmed. -/
lemma IsTrimmed.append_cons {ds : List Char} (hcs : IsTrimmed cs) (hcs_ne : cs ≠ [])
    (hds : IsTrimmed ds) (hds_ne : ds ≠ []) (c : Char) : IsTrimmed (cs ++ c :: ds) where
  first := by
    intro d hd
    rw [List.head?_append_of_ne_nil cs hcs_ne] at hd
    exact hcs.first d hd
  last := by
    intro d hd
    rw [List.append_cons, List.getLast?_append_of_ne_nil _ hds_ne] at hd
    exact hds.last d hd

/-- Trimming adds no character. -/
lemma mem_of_mem_trim {c : Char} (h : c ∈ trim cs) : c ∈ cs := by
  rw [trim, trimEnd, List.mem_reverse] at h
  have hfront : c ∈ (trimStart cs).reverse := (List.dropWhile_sublist _).subset h
  exact (List.dropWhile_sublist _).subset (List.mem_reverse.mp hfront)

end FieldRules.Text
