/-
Lists of messages in which no text occurs twice.

* `DistinctTexts`: no two messages of the list have one text;
* `DistinctTexts.insertDistinct`, `DistinctTexts.eraseP`: adding a message that
  has a new text and removing one keep that;
* `foldl_insertDistinct_nil`: messages added one after the other are the list
  without the messages whose texts stand further in front in it;
* `mem_eraseDupsBy_sameText`, `any_eraseDupsBy_map`: what is left of such a list
  is the first message of each text.
-/
import FieldRules.Message
import Mathlib.Data.List.Induction
import Mathlib.Data.List.Nodup
import Mathlib.Tactic.Lemma

namespace FieldRules

/-- No two messages of the list have the same text. -/
def DistinctTexts (ms : List Message) : Prop :=
  (ms.map Message.text).Nodup

lemma hasText_iff {ms : List Message} {text : String} :
    hasText ms text = true ↔ text ∈ ms.map Message.text := by
  simp [hasText]

lemma hasText_append_singleton (ms : List Message) (m : Message) (text : String) :
    hasText (ms ++ [m]) text = (hasText ms text || m.text == text) := by
  simp [hasText]

/-- A list without messages has no text twice. -/
lemma distinctTexts_nil : DistinctTexts [] := List.nodup_nil

/-- A message with a new text does no harm at the end. -/
lemma DistinctTexts.append_singleton {ms : List Message} (h : DistinctTexts ms) {m : Message}
    (hm : hasText ms m.text = false) : DistinctTexts (ms ++ [m]) := by
  have hnot : m.text ∉ ms.map Message.text := by
    rw [← hasText_iff, hm]
    simp
  rw [DistinctTexts, List.map_append, List.map_singleton, List.nodup_append]
  refine ⟨h, List.nodup_singleton _, fun a ha b hb => ?_⟩
  rw [List.mem_singleton.mp hb]
  exact fun heq => hnot (heq ▸ ha)

/-- A message is added only if its text is new. -/
lemma DistinctTexts.insertDistinct {ms : List Message} (h : DistinctTexts ms) (m : Message) :
    DistinctTexts (insertDistinct ms m) := by
  rw [FieldRules.insertDistinct]
  split
  · exact h
  · rename_i hm
    exact h.append_singleton (by simpa using hm)

/-- Without one of its messages the list still has no text twice. -/
lemma DistinctTexts.eraseP {ms : List Message} (h : DistinctTexts ms) (p : Message → Bool) :
    DistinctTexts (ms.eraseP p) :=
  h.sublist (List.eraseP_sublist.map Message.text)

/-- Messages added one after the other: those that have a text which the list had not, and of those
with one text the first. -/
lemma foldl_insertDistinct (found ms : List Message) :
    ms.foldl insertDistinct found
      = found ++ (ms.filter fun m => !hasText found m.text).eraseDupsBy Message.sameText := by
  induction ms generalizing found with
  | nil => simp
  | cons m rest ih =>
      rw [List.foldl_cons, ih, List.filter_cons]
      by_cases h : hasText found m.text = true
      · rw [insertDistinct, if_pos h, if_neg (by simp [h])]
      · rw [insertDistinct, if_neg h, if_pos (by simp [h]), List.eraseDupsBy_cons,
          List.filter_filter, List.append_assoc, List.singleton_append]
        -- a later message is dropped for the list or for the message just added
        congr 3
        refine List.filter_congr fun b _ => ?_
        have hb : (b.text == m.text) = (m.text == b.text) := by
          rw [Bool.eq_iff_iff, beq_iff_eq, beq_iff_eq, eq_comm]
        rw [hasText_append_singleton, Message.sameText, hb, Bool.not_or, Bool.and_comm]
        by_cases ht : m.text = b.text <;> simp [ht]

/-- Messages added one after the other to none: of those with one text the first. -/
lemma foldl_insertDistinct_nil (ms : List Message) :
    ms.foldl insertDistinct [] = ms.eraseDupsBy Message.sameText := by
  simp [foldl_insertDistinct, hasText]

/-- Messages added one after the other have no text twice. -/
lemma distinctTexts_foldl_insertDistinct {found : List Message} (h : DistinctTexts found)
    (ms : List Message) : DistinctTexts (ms.foldl insertDistinct found) := by
  induction ms generalizing found with
  | nil => exact h
  | cons m rest ih => exact ih (h.insertDistinct m)

/-! ### What is left of a list -/

/-- Messages added one after the other bring their texts with them. -/
lemma hasText_foldl_insertDistinct (found ms : List Message) (text : String) :
    hasText (ms.foldl insertDistinct found) text = (hasText found text || hasText ms text) := by
  induction ms generalizing found with
  | nil => simp [hasText]
  | cons m rest ih =>
      have hrest : hasText (m :: rest) text = (m.text == text || hasText rest text) := rfl
      rw [List.foldl_cons, ih, hrest, insertDistinct]
      split
      · rename_i hm
        by_cases ht : m.text = text
        · rw [← ht, hm]
          simp
        · rw [beq_eq_false_iff_ne.mpr ht, Bool.false_or]
      · rw [hasText_append_singleton, Bool.or_assoc]

/-- Of the messages with one text the first is left. -/
lemma mem_eraseDupsBy_sameText {ms : List Message} {m : Message} :
    m ∈ ms.eraseDupsBy Message.sameText ↔ (ms.find? fun n => n.text == m.text) = some m := by
  rw [← foldl_insertDistinct_nil]
  induction ms using List.reverseRecOn with
  | nil => simp
  | append_singleton ms n ih =>
      have hfound := hasText_foldl_insertDistinct [] ms n.text
      rw [List.foldl_append, List.foldl_cons, List.foldl_nil, List.find?_append, insertDistinct]
      cases hfind : ms.find? fun n => n.text == m.text with
      | some first =>
          -- a message with the text is there, so that another one of it is not added
          rw [hfind] at ih
          rw [Option.some_or, ← ih]
          split
          · rfl
          · rename_i hnew
            have hmem := List.mem_of_find?_eq_some hfind
            have htext := List.find?_some hfind
            have hne : m ≠ n := by
              rintro rfl
              rw [hfound] at hnew
              exact hnew (List.any_eq_true.mpr ⟨first, hmem, htext⟩)
            simp [hne]
      | none =>
          rw [hfind] at ih
          have hold : m ∉ ms.foldl insertDistinct [] := by simp [ih]
          rw [Option.none_or, List.find?_singleton]
          by_cases hn : n = m
          · subst hn
            have hnew : hasText ms n.text = false := by
              rw [hasText, List.any_eq_false]
              exact List.find?_eq_none.mp hfind
            rw [hfound, hnew]
            simp [hasText]
          · have hlast : (if (n.text == m.text) = true then some n else none) ≠ some m := by
              split <;> simp [hn]
            simp only [hlast, iff_false]
            split
            · exact hold
            · simp [hold, Ne.symm hn]

/-- Something is left that fits if and only if something fits whose text does not stand further in
front. -/
lemma any_eraseDupsBy_map {α : Type} (c : α → Message) (as : List α) (p : Message → Bool) :
    ((as.map c).eraseDupsBy Message.sameText).any p = true ↔
      ∃ front a back, as = front ++ a :: back ∧ p (c a) = true ∧
        ∀ q ∈ front, (c q).text ≠ (c a).text := by
  rw [List.any_eq_true]
  constructor
  · rintro ⟨m, hm, hp⟩
    have hfirst := mem_eraseDupsBy_sameText.mp hm
    rw [List.find?_map, Option.map_eq_some_iff] at hfirst
    obtain ⟨a, ha, rfl⟩ := hfirst
    obtain ⟨_, front, back, hsplit, hfront⟩ := List.find?_eq_some_iff_append.mp ha
    exact ⟨front, a, back, hsplit, hp, fun q hq => by simpa using hfront q hq⟩
  · rintro ⟨front, a, back, rfl, hp, hfront⟩
    refine ⟨c a, mem_eraseDupsBy_sameText.mpr ?_, hp⟩
    rw [List.find?_map, Option.map_eq_some_iff]
    refine ⟨a, List.find?_eq_some_iff_append.mpr ⟨by simp, front, back, rfl, ?_⟩, rfl⟩
    intro q hq
    simpa using hfront q hq

end FieldRules
