/-
Lists of messages that follow the verdicts of checks.

* `Verdict`, `Verdict.record`: a check passed or failed, and what becomes of a list
  of messages: one with the text of the check is removed, or the message of the check
  is added if its text is new;
* `lastVerdict`: whether the last check of a text passed;
* `hasText_recordAll`: the list has the texts whose last check failed, and those that
  it had and that were not checked;
* `StaysIn`: a text is in the list at all times;
* `AddsBehind`, `addsBehind_recordAll`: what has been in the list at all times stands
  in the old order, and what was added stands behind it.

All this rests on lists in which no text occurs twice: only from such a list does one removal
take all messages with a text.
-/
import FieldRules.Proofs.Message.Texts

namespace FieldRules

/-- What a check came to. -/
structure Verdict where
  /-- Whether the check passed. -/
  passed : Bool
  /-- What there is to say if it failed. -/
  failure : Message

/-- The list after a check: without the message if the check passed, and with it otherwise. -/
def Verdict.record (v : Verdict) (ms : List Message) : List Message :=
  if v.passed then ms.eraseP fun m => m.text == v.failure.text else insertDistinct ms v.failure

/-- The list after checks, one after the other. -/
def recordAll (ms : List Message) (vs : List Verdict) : List Message :=
  vs.foldl (fun ms v => v.record ms) ms

/-- Whether the last check of the text passed, if there was one. -/
def lastVerdict (text : String) (vs : List Verdict) : Option Bool :=
  (vs.reverse.find? fun v => v.failure.text == text).map Verdict.passed

/-- The text is in the list before the checks and after each of them. -/
def StaysIn (ms : List Message) (vs : List Verdict) (text : String) : Prop :=
  ∀ front, front <+: vs → hasText (recordAll ms front) text = true

/-- The second list begins with those messages of the first one that have these texts, in their
order, and has others behind them. -/
def AddsBehind (stays : String → Prop) (ms ms' : List Message) : Prop :=
  ∃ kept added, ms' = kept ++ added ∧ kept.Sublist ms ∧
    (∀ m ∈ ms, m ∈ kept ↔ stays m.text) ∧ ∀ m ∈ added, ¬stays m.text

variable {ms ms' : List Message} {vs : List Verdict} {v : Verdict} {text : String}

lemma recordAll_append_singleton (ms : List Message) (vs : List Verdict) (v : Verdict) :
    recordAll ms (vs ++ [v]) = v.record (recordAll ms vs) := by
  rw [recordAll, List.foldl_append]
  rfl

lemma lastVerdict_append_singleton (text : String) (vs : List Verdict) (v : Verdict) :
    lastVerdict text (vs ++ [v])
      = if v.failure.text = text then some v.passed else lastVerdict text vs := by
  by_cases h : v.failure.text = text <;> simp [lastVerdict, h]

/-! ### One check -/

/-- Where no text occurs twice, to remove the first message with a text is to remove all. -/
lemma DistinctTexts.eraseP_eq_filter (h : DistinctTexts ms) (text : String) :
    (ms.eraseP fun m => m.text == text) = ms.filter fun m => m.text != text := by
  induction ms with
  | nil => rfl
  | cons m rest ih =>
      obtain ⟨hnot, hrest⟩ := List.nodup_cons.mp h
      by_cases hm : m.text = text
      · have hall : ∀ n ∈ rest, (n.text != text) = true := fun n hn =>
          bne_iff_ne.mpr fun heq => hnot (List.mem_map.mpr ⟨n, hn, heq.trans hm.symm⟩)
        simp [hm, List.filter_eq_self.mpr hall]
      · rw [List.eraseP_cons_of_neg (by simpa using hm),
          List.filter_cons_of_pos (by simpa using hm), ih hrest]

/-- After a check no text occurs twice if none did before. -/
lemma DistinctTexts.record (h : DistinctTexts ms) (v : Verdict) : DistinctTexts (v.record ms) := by
  rw [Verdict.record]
  split
  · exact h.eraseP _
  · exact h.insertDistinct v.failure

/-- After a check its text is in the list if it failed; the other texts are in it as before. -/
lemma DistinctTexts.hasText_record (h : DistinctTexts ms) (v : Verdict) (text : String) :
    hasText (v.record ms) text
      = if v.failure.text = text then !v.passed else hasText ms text := by
  rw [Verdict.record]
  cases v.passed with
  | true =>
      rw [if_pos rfl, h.eraseP_eq_filter, hasText, List.any_filter]
      by_cases ht : v.failure.text = text
      · simp [ht]
      · rw [if_neg ht, hasText]
        congr 1
        funext m
        by_cases hm : m.text = text <;> simp [hm, Ne.symm ht]
  | false =>
      have hinsert := hasText_foldl_insertDistinct ms [v.failure] text
      rw [List.foldl_cons, List.foldl_nil] at hinsert
      rw [if_neg Bool.false_ne_true, hinsert]
      by_cases ht : v.failure.text = text <;> simp [hasText, ht]

/-! ### Many checks -/

/-- After checks no text occurs twice if none did before. -/
lemma DistinctTexts.recordAll (h : DistinctTexts ms) (vs : List Verdict) :
    DistinctTexts (recordAll ms vs) := by
  induction vs generalizing ms with
  | nil => exact h
  | cons v rest ih => exact ih (h.record v)

/-- After checks a text is in the list if its last check failed, and as before if there was no check
of it. -/
lemma DistinctTexts.hasText_recordAll (h : DistinctTexts ms) (vs : List Verdict) (text : String) :
    hasText (FieldRules.recordAll ms vs) text
      = ((lastVerdict text vs).map not).getD (hasText ms text) := by
  induction vs using List.reverseRecOn with
  | nil => rfl
  | append_singleton vs v ih =>
      rw [recordAll_append_singleton, (h.recordAll vs).hasText_record, lastVerdict_append_singleton,
        ih]
      split <;> rfl

lemma staysIn_nil : StaysIn ms [] text ↔ hasText ms text = true := by
  refine ⟨fun h => h [] List.nil_prefix, fun h front hfront => ?_⟩
  rw [List.prefix_nil.mp hfront]
  exact h

/-- A text stays through one check more unless this removes it. -/
lemma DistinctTexts.staysIn_append_singleton (h : DistinctTexts ms) :
    StaysIn ms (vs ++ [v]) text ↔
      StaysIn ms vs text ∧ (v.passed = true → text ≠ v.failure.text) := by
  have hstep : StaysIn ms (vs ++ [v]) text ↔
      StaysIn ms vs text ∧ hasText (FieldRules.recordAll ms (vs ++ [v])) text = true := by
    constructor
    · intro hstay
      exact ⟨fun front hfront => hstay front (hfront.trans (List.prefix_append vs [v])),
        hstay _ (List.prefix_refl _)⟩
    · rintro ⟨hvs, hlast⟩ front hfront
      rcases List.prefix_concat_iff.mp hfront with rfl | hfront
      · exact hlast
      · exact hvs front hfront
  refine hstep.trans (and_congr_right fun hstay => ?_)
  rw [recordAll_append_singleton, (h.recordAll vs).hasText_record, hstay vs (List.prefix_refl vs)]
  by_cases ht : v.failure.text = text
  · simp [ht]
  · simp [ht, Ne.symm ht]

namespace AddsBehind

variable {stays : String → Prop}

/-- Messages with one text leave the others in their order. -/
lemma filter (h : AddsBehind stays ms ms') (text : String) :
    AddsBehind (fun t => stays t ∧ t ≠ text) ms (ms'.filter fun m => m.text != text) := by
  obtain ⟨kept, added, rfl, hsub, hkept, hadded⟩ := h
  refine ⟨_, _, List.filter_append kept added, List.filter_sublist.trans hsub, fun m hm => ?_,
    fun m hm hstay => hadded m (List.mem_of_mem_filter hm) hstay.1⟩
  rw [List.mem_filter, hkept m hm, bne_iff_ne]

/-- A message is added behind all others. -/
lemma insertDistinct (h : AddsBehind stays ms ms') (hstays : ∀ t, stays t → hasText ms' t = true)
    (m : Message) : AddsBehind stays ms (insertDistinct ms' m) := by
  rw [FieldRules.insertDistinct]
  split
  · exact h
  · rename_i hm
    obtain ⟨kept, added, rfl, hsub, hkept, hadded⟩ := h
    refine ⟨kept, added ++ [m], List.append_assoc kept added [m], hsub, hkept, fun n hn => ?_⟩
    rcases List.mem_append.mp hn with hn | hn
    · exact hadded n hn
    · rw [List.mem_singleton.mp hn]
      exact fun hstay => hm (hstays m.text hstay)

lemma congr {stays' : String → Prop} (h : AddsBehind stays ms ms')
    (hstays : ∀ t, stays' t ↔ stays t) : AddsBehind stays' ms ms' := by
  rwa [show stays' = stays from funext fun t => propext (hstays t)]

end AddsBehind

/-- What has been in the list at all times stands in the old order, and in front of what was
added. -/
lemma DistinctTexts.addsBehind_recordAll (h : DistinctTexts ms) (vs : List Verdict) :
    AddsBehind (StaysIn ms vs) ms (FieldRules.recordAll ms vs) := by
  induction vs using List.reverseRecOn with
  | nil =>
      refine ⟨ms, [], (List.append_nil ms).symm, List.Sublist.refl ms, fun m hm => ?_, by simp⟩
      rw [staysIn_nil]
      exact ⟨fun hm => hasText_iff.mpr (List.mem_map_of_mem hm), fun _ => hm⟩
  | append_singleton vs v ih =>
      rw [recordAll_append_singleton, Verdict.record]
      cases hv : v.passed with
      | true =>
          rw [if_pos rfl, (h.recordAll vs).eraseP_eq_filter]
          exact (ih.filter v.failure.text).congr fun t => by simp [h.staysIn_append_singleton, hv]
      | false =>
          rw [if_neg Bool.false_ne_true]
          refine (ih.insertDistinct (fun t hstay => hstay vs (List.prefix_refl vs)) v.failure).congr
            fun t => ?_
          simp [h.staysIn_append_singleton, hv]

end FieldRules
