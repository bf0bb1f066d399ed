/-
The capacity that is asked for in the settings, and what can be made with it.

* `Numeral.Spells`, `natural?_trim_eq_some_iff`: the texts that are read as a
  number;
* `Settings.Asks`, `parseCapacity_of_asks`, `parseCapacity_of_not_asks`: the
  capacity is the number that is asked for, and the usual one if there is no such
  number, or it is too great;
* `Settings.parseCapacity_le_maxRequest_iff`: the settings with a capacity that a
  channel can have;
* `Channel.ofCapacity?_of_le`, `ofCapacity?_of_lt`: the capacities for which there
  is a channel;
* `Session.step_create_of_some`, `step_create_of_none`: a target is made if there
  is a channel for it, and otherwise nothing happens;
* `Settings.capacity_is_usable_up_to_half`: so the upper half of the capacities that
  can be asked for is of no use;
* `Settings.greatest_capacity_is_refused`: the greatest of them.
-/
import FieldRules.Proofs.Number.Numeral
import FieldRules.Proofs.Store.Subscribers
import FieldRules.Session.Step

namespace FieldRules

/-! ### Numerals -/

namespace Numeral

variable {cs ds : List Char} {n : Nat}

/-- The text is a numeral of the number: ASCII digits, perhaps behind a plus sign, and perhaps with
blank characters around both. -/
inductive Spells : List Char → Nat → Prop
  | intro {front sign digits back : List Char} (hfront : front.all Text.isBlankChar = true)
      (hsign : sign = [] ∨ sign = ['+']) (hne : digits ≠ [])
      (hdigits : ∀ c ∈ digits, c.isDigit = true) (hback : back.all Text.isBlankChar = true) :
      Spells (front ++ (sign ++ digits) ++ back) (value digits)

lemma digits?_eq_some_iff :
    digits? ds = some n ↔ ds ≠ [] ∧ (∀ c ∈ ds, c.isDigit = true) ∧ value ds = n := by
  have hcond : (!ds.isEmpty && ds.all Char.isDigit) = true ↔
      ds ≠ [] ∧ ∀ c ∈ ds, c.isDigit = true := by simp
  rw [digits?]
  by_cases h : ds ≠ [] ∧ ∀ c ∈ ds, c.isDigit = true
  · rw [if_pos (hcond.mpr h), Option.some_inj, ← and_assoc, and_iff_right h]
  · rw [if_neg (hcond.not.mpr h)]
    constructor
    · intro hn
      cases hn
    · rintro ⟨hne, hdigits, -⟩
      exact absurd ⟨hne, hdigits⟩ h

/-- A number is read from its digits, behind a plus sign or not. -/
lemma natural?_eq_some_iff :
    natural? cs = some n ↔
      ∃ sign ds, cs = sign ++ ds ∧ (sign = [] ∨ sign = ['+']) ∧ digits? ds = some n := by
  constructor
  · intro h
    rw [natural?.eq_def] at h
    split at h
    · rename_i r
      exact ⟨['+'], r, rfl, .inr rfl, h⟩
    · exact ⟨[], cs, rfl, .inl rfl, h⟩
  · rintro ⟨sign, ds, rfl, rfl | rfl, h⟩
    · rw [List.nil_append, natural?.eq_def]
      split
      · -- A sign is no digit, so the digits do not begin with one.
        obtain ⟨-, hdigits, -⟩ := digits?_eq_some_iff.mp h
        exact absurd (hdigits '+' List.mem_cons_self) (by decide)
      · exact h
    · exact h

/-- A number is read from its numerals, and from no other texts. -/
lemma natural?_trim_eq_some_iff : natural? (Text.trim cs) = some n ↔ Spells cs n := by
  constructor
  · intro h
    obtain ⟨sign, ds, hsplit, hsign, hread⟩ := natural?_eq_some_iff.mp h
    obtain ⟨hne, hdigits, rfl⟩ := digits?_eq_some_iff.mp hread
    obtain ⟨front, hfront, hcs⟩ := Text.exists_trimStart cs
    obtain ⟨back, hback, hmiddle⟩ := Text.exists_trimEnd (Text.trimStart cs)
    have hwhole : cs = front ++ (sign ++ ds) ++ back := by
      rw [List.append_assoc, ← hsplit, Text.trim, hmiddle, hcs]
    rw [hwhole]
    exact .intro hfront hsign hne hdigits hback
  · rintro ⟨hfront, hsign, hne, hdigits, hback⟩
    rename_i front sign ds back
    have hvisible : ∀ c ∈ sign ++ ds, Text.isBlankChar c = false := by
      intro c hc
      rcases List.mem_append.mp hc with hc | hc
      · rcases hsign with rfl | rfl
        · cases hc
        · rw [List.mem_singleton.mp hc]
          rfl
      · exact isBlankChar_of_isDigit (hdigits c hc)
    rw [Text.trim_append_blank hback, Text.trim_blank_append hfront,
      (Text.isTrimmed_of_forall hvisible).trim_eq, natural?_eq_some_iff]
    exact ⟨sign, ds, rfl, hsign, digits?_eq_some_iff.mpr ⟨hne, hdigits, rfl⟩⟩

end Numeral

/-! ### The setting -/

namespace Settings

variable {capacity : Option String} {m n : Nat}

/-- The setting asks for the number. -/
def Asks (capacity : Option String) (n : Nat) : Prop :=
  ∃ s, capacity = some s ∧ Numeral.Spells s.toList n

lemma asks_iff :
    Asks capacity n ↔
      (capacity.bind fun s => Numeral.natural? (Text.trim s.toList)) = some n := by
  simp only [Asks, Option.bind_eq_some_iff, Numeral.natural?_trim_eq_some_iff]

/-- A setting asks for one number at most. -/
lemma Asks.unique (hm : Asks capacity m) (hn : Asks capacity n) : m = n := by
  rw [asks_iff] at hm hn
  exact Option.some.inj (hm.symm.trans hn)

/-- The capacity is the number that is asked for; zero is raised to one. -/
lemma parseCapacity_of_asks (h : Asks capacity n) (hle : n ≤ maxCapacity) :
    parseCapacity capacity = max n 1 := by
  rw [parseCapacity, asks_iff.mp h]
  exact if_pos hle

/-- The usual capacity is that of settings that ask for a greater number, or for none. -/
lemma parseCapacity_of_not_asks (h : ∀ n, Asks capacity n → maxCapacity < n) :
    parseCapacity capacity = defaultCapacity := by
  rw [parseCapacity]
  cases hread : capacity.bind fun s => Numeral.natural? (Text.trim s.toList) with
  | none => rfl
  | some n => exact if_neg (Nat.not_le.mpr (h n (asks_iff.mpr hread)))

lemma asks_or_not (capacity : Option String) :
    (∃ n, Asks capacity n ∧ n ≤ maxCapacity) ∨ ∀ n, Asks capacity n → maxCapacity < n := by
  by_cases h : ∃ n, Asks capacity n ∧ n ≤ maxCapacity
  · exact .inl h
  · exact .inr fun n hasks => Nat.lt_of_not_le fun hle => h ⟨n, hasks, hle⟩

/-- A capacity is one of those that can be asked for. -/
lemma parseCapacity_le (capacity : Option String) : parseCapacity capacity ≤ maxCapacity := by
  rcases asks_or_not capacity with ⟨n, hasks, hle⟩ | hnone
  · rw [parseCapacity_of_asks hasks hle]
    exact Nat.max_le.mpr ⟨hle, by decide⟩
  · rw [parseCapacity_of_not_asks hnone]
    decide

/-- There is a channel for the capacity unless the setting asks for a number that is too great for a
channel and not too great for a capacity. -/
lemma parseCapacity_le_maxRequest_iff (capacity : Option String) :
    parseCapacity capacity ≤ Channel.maxRequest ↔
      ∀ n, Asks capacity n → n ≤ Channel.maxRequest ∨ maxCapacity < n := by
  rcases asks_or_not capacity with ⟨n, hasks, hle⟩ | hnone
  · have hone : 1 ≤ Channel.maxRequest := by decide
    rw [parseCapacity_of_asks hasks hle, Nat.max_le, and_iff_left hone]
    constructor
    · intro h m hm
      exact .inl (hm.unique hasks ▸ h)
    · intro h
      exact (h n hasks).resolve_right (Nat.not_lt.mpr hle)
  · rw [parseCapacity_of_not_asks hnone]
    exact ⟨fun _ n hasks => .inr (hnone n hasks), fun _ => by decide⟩

end Settings

/-! ### Channels -/

namespace Channel

variable {α : Type} {n : Nat}

/-- There is a channel for every capacity up to the greatest that a channel can be asked for. -/
lemma ofCapacity?_of_le (hpos : 1 ≤ n) (hle : n ≤ maxRequest) :
    (ofCapacity? n : Option (Channel α)) = some (create n) := by
  rw [ofCapacity?, Nat.max_eq_left hpos, create?, if_pos ⟨hpos, hle⟩]

/-- There is no channel for a capacity above the greatest that a channel can be asked for. -/
lemma ofCapacity?_of_lt (hlt : maxRequest < n) :
    (ofCapacity? n : Option (Channel α)) = none := by
  rw [ofCapacity?, create?, if_neg (by omega)]

end Channel

/-! ### Targets -/

namespace Session

variable {n : Nat} {c : Channel Event}

/-- With a channel, a target is made that has no messages, and this channel. -/
lemma step_create_of_some (hc : Channel.ofCapacity? n = some c) (hsenders : c.senders ≠ 0)
    (σ : Session) (name model : String) (fields : List (String × Value))
    (localizer : Option Localizer) :
    ∃ turn σ' t,
      σ.step (.create name model (.withCapacity n) fields localizer) = (turn, σ') ∧
        turn.answer = .reply .done ∧ σ'.target? name = some t ∧ t.subject.store = .empty ∧
        σ'.channels[t.channel]? = some c := by
  have hmade : ∃ σ' t,
      σ.step (.create name model (.withCapacity n) fields localizer)
          = toldOf (.reply .done) name none σ' ∧
        σ'.target? name = some t ∧ t.subject.store = .empty ∧ σ'.channels[t.channel]? = some c := by
    rw [step, create]
    dsimp only [begin]
    rw [hc]
    refine ⟨_, ⟨model, ⟨⟨(σ.model model).model.typeName, fields⟩, localizer, .empty⟩, [name],
      (σ.discard name).channels.length⟩, rfl, ?_, rfl, ?_⟩
    · rw [target?, putTarget, List.lookup_cons_self]
    · exact List.getElem?_concat_length
  obtain ⟨σ', t, hstep, ht, hstore, hchannel⟩ := hmade
  -- A new target has published nothing, so that delivery changes nothing.
  obtain ⟨hdelivered, hkept⟩ := deliver_eq ht hchannel hsenders
  rw [hstore] at hdelivered hkept
  exact ⟨(toldOf (.reply .done) name none σ').1, (σ'.deliver name).2, t.withStore .empty, hstep,
    rfl, hkept, rfl, hdelivered⟩

/-- Without a channel no target is made, and nothing happens. -/
lemma step_create_of_none (hc : (Channel.ofCapacity? n : Option (Channel Event)) = none)
    (σ : Session) (name model : String) (fields : List (String × Value))
    (localizer : Option Localizer) :
    σ.step (.create name model (.withCapacity n) fields localizer)
      = (⟨.missing, [], none, none⟩, σ) := by
  rw [step, create]
  dsimp only [begin]
  rw [hc]
  rfl

end Session

namespace Settings

/-- **The capacity that is set is usable up to half of what can be asked for**: it lies between one
and the greatest number of sixty-four bits, and it is the number that the setting asks for, with
zero raised to one. It is the usual capacity if the setting asks for a greater number, or for none
at all. There is a channel for it, and so every target can be made with it, unless the setting asks
for a number in the upper half: then it is this number, and no target is made. -/
theorem capacity_is_usable_up_to_half (capacity format : Option String) :
    (1 ≤ (ofTexts capacity format).eventCapacity ∧
        (ofTexts capacity format).eventCapacity ≤ maxCapacity) ∧
      (∀ n, Asks capacity n → n ≤ maxCapacity →
        (ofTexts capacity format).eventCapacity = max n 1) ∧
      ((∀ n, Asks capacity n → maxCapacity < n) →
        (ofTexts capacity format).eventCapacity = defaultCapacity) ∧
      ((ofTexts capacity format).eventCapacity ≤ Channel.maxRequest ↔
        ∀ n, Asks capacity n → n ≤ Channel.maxRequest ∨ maxCapacity < n) ∧
      ∀ (σ : Session) (name model : String) (fields : List (String × Value))
        (localizer : Option Localizer),
        ((ofTexts capacity format).eventCapacity ≤ Channel.maxRequest →
          ∃ turn σ' t,
            σ.step (.create name model (.ofSettings (ofTexts capacity format)) fields localizer)
                = (turn, σ') ∧
              turn.answer = .reply .done ∧ σ'.target? name = some t ∧ t.subject.store = .empty ∧
              σ'.channels[t.channel]?
                = some (Channel.create (ofTexts capacity format).eventCapacity)) ∧
          (Channel.maxRequest < (ofTexts capacity format).eventCapacity →
            σ.step (.create name model (.ofSettings (ofTexts capacity format)) fields localizer)
              = (⟨.missing, [], none, none⟩, σ)) := by
  have hpos : 1 ≤ (ofTexts capacity format).eventCapacity := parseCapacity_pos capacity
  refine ⟨⟨hpos, parseCapacity_le capacity⟩, fun n => parseCapacity_of_asks,
    parseCapacity_of_not_asks, parseCapacity_le_maxRequest_iff capacity, ?_⟩
  intro σ name model fields localizer
  constructor
  · intro husable
    exact Session.step_create_of_some (Channel.ofCapacity?_of_le hpos husable) Nat.one_ne_zero σ
      name model fields localizer
  · intro hbeyond
    exact Session.step_create_of_none (Channel.ofCapacity?_of_lt hbeyond) σ name model fields
      localizer

/-- A setting that asks for five events, with a sign and a blank character. -/
def fiveEvents : Option String := some " +5"

/-- A target that is made with five events in the settings has a channel that keeps eight, the least
power of two that is large enough. -/
theorem five_events_are_usable :
    Asks fiveEvents 5 ∧ (ofTexts fiveEvents none).eventCapacity = 5 ∧
      5 ≤ Channel.maxRequest ∧
      ∃ turn σ' t,
        (Session.start []).step (.create "order" "Order" (.ofSettings (ofTexts fiveEvents none)) []
            none) = (turn, σ') ∧
          turn.answer = .reply .done ∧ σ'.target? "order" = some t ∧ t.subject.store = .empty ∧
          σ'.channels[t.channel]? = some (Channel.create 5) ∧
          (Channel.create 5 : Channel Event).capacity = 8 := by
  have hasks : Asks fiveEvents 5 := asks_iff.mpr rfl
  have hhalf : 5 ≤ Channel.maxRequest := by decide
  obtain ⟨-, hnumber, -, -, hmade⟩ := capacity_is_usable_up_to_half fiveEvents none
  have hset : (ofTexts fiveEvents none).eventCapacity = 5 := hnumber 5 hasks (by decide)
  obtain ⟨hchannel, -⟩ := hmade (Session.start []) "order" "Order" [] none
  rw [hset] at hchannel
  obtain ⟨turn, σ', t, hstep, hanswer, ht, hstore, hkept⟩ := hchannel hhalf
  exact ⟨hasks, hset, hhalf, turn, σ', t, hstep, hanswer, ht, hstore, hkept, by decide⟩

/-- The greatest capacity is taken as it is set, but it is more than any channel can be asked to
keep, and no target is made with it. -/
theorem greatest_capacity_is_refused :
    (ofTexts (some "18446744073709551615") none).eventCapacity = 18446744073709551615 ∧
      ¬(ofTexts (some "18446744073709551615") none).eventCapacity ≤ Channel.maxRequest ∧
      (Session.start []).step
          (.create "order" "Order" (.ofSettings (ofTexts (some "18446744073709551615") none)) []
            none)
        = (⟨.missing, [], none, none⟩, Session.start []) :=
  ⟨by decide, by decide, rfl⟩

end Settings

end FieldRules
