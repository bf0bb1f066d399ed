/-
Rules that were compiled do not go wrong.

* `Rule.errorOf_validate_congr`: whether a rule fails, and how, depends on its
  check, its condition and the object alone;
* `Rule.Proper`: every path of the rule has a name; `proper_of_compile`,
  `Proper.binds`: compiling makes such rules, and use keeps them so;
* `RuleBook.Offers`: the rules of a type, those that are compiled on the side
  included;
* `compiled_rules_do_not_go_wrong`: the ways in which they may fail.
-/
import FieldRules.Proofs.Rule.Compilation
import FieldRules.Proofs.Site.Reachable

namespace FieldRules

/-! ### The part of a rule that decides about errors -/

/-- Whether a check has an answer, and the error if it has none, does not depend on the message that
it would report, nor on the messages that are there. -/
lemma Check.errorOf_validate_congr (c : Check) (field : Field) {x y : Instance}
    (hxy : x.object = y.object) (m m' : Message) :
    errorOf (c.validate field x m) = errorOf (c.validate field y m') := by
  cases c with
  | present => rfl
  | numeric n => rw [validate, validate, errorOf_map, errorOf_map, hxy]
  | longer b => rw [validate, validate, errorOf_map, errorOf_map, hxy]
  | shorter b => rw [validate, validate, errorOf_map, errorOf_map, hxy]
  | custom delegate => cases delegate <;> rfl

namespace Rule

variable {r r' : Rule} {field : Field} {x y : Instance} {localizer localizer' : Option Localizer}

/-- Whether a rule has an answer, and the error if it has none, depends on its check, its condition
and the object alone. -/
lemma errorOf_validate_congr (hcheck : r.check = r'.check) (hguard : r.guard = r'.guard)
    (hxy : x.object = y.object) :
    errorOf (r.validate field x localizer) = errorOf (r'.validate field y localizer') := by
  have happlies : r.applies x.object = r'.applies y.object := by
    rw [applies, applies, hguard, hxy]
  rw [validate, validate, happlies]
  cases r'.applies y.object with
  | error e => rfl
  | ok applies =>
      cases applies with
      | false => rfl
      | true =>
          simp only [errorOf_map, hcheck]
          exact Check.errorOf_validate_congr r'.check field hxy _ _

/-- A rule whose check is not numeric has no answer only if the path of its condition leads nowhere,
or one that a bound is taken from. -/
lemma Trouble.strays {owner : Entity} {e : Error} (h : r.Trouble owner e)
    (hr : ∀ n, r.check ≠ .numeric n) :
    (∃ g, r.guard = some g ∧ g.path.Strays owner e) ∨
      ∃ p, some p ∈ r.check.slots ∧ p.Strays owner e := by
  cases h with
  | guard hg hstrays => exact .inl ⟨_, hg, hstrays⟩
  | check hc =>
      cases hc with
      | bound hp hstrays => exact .inr ⟨_, hp, hstrays⟩
      | typeMismatch hn _ _ _ => exact absurd hn (hr _)
      | conversion hn _ _ => exact absurd hn (hr _)

/-! ### Paths of rules -/

/-- Every path of the rule has a name. -/
structure Proper (r : Rule) : Prop where
  /-- That of the condition. -/
  guard : ∀ g, r.guard = some g → g.path.segments ≠ []
  /-- Those that bounds are taken from. -/
  bounds : ∀ p, some p ∈ r.check.slots → p.segments ≠ []

/-- The paths of a rule that is compiled were read. -/
lemma proper_of_compile {d : RuleDecl} {typeName name : String} {hs : Handlers}
    (h : d.compile typeName name hs = .ok r) : r.Proper := by
  have hread : ∀ {raw : Option String} {p : Path}, ReadsAs raw (some p) → p.segments ≠ [] := by
    intro raw p hp
    cases hp with
    | path _ hparse => exact Path.segments_ne_nil_of_parse hparse
  obtain ⟨_, hguard, _, hcheck⟩ := RuleDecl.compile_eq_ok h
  constructor
  · intro g hg
    have hreads := RuleDecl.readsAs_of_compileGuard hguard
    rw [hg] at hreads
    exact hread hreads
  · intro p hp
    obtain ⟨raw, _, hreads⟩ := exists_left_of_forall₂ (RuleDecl.compileCheck_eq_ok hcheck).1 hp
    exact hread hreads

/-- Use leaves the paths of a rule alone. -/
lemma Proper.binds (h : r.Proper) (hr : r.Binds r') : r'.Proper := by
  have hslots : r'.check.slots = r.check.slots := by
    have hcheck := hr.check
    generalize r.check = c, r'.check = c' at hcheck
    cases hcheck <;> rfl
  have hguard : r'.guard = r.guard := by rw [hr.rest]
  exact ⟨hguard ▸ h.guard, hslots ▸ h.bounds⟩

/-- If a proper rule fails with a path, the path was followed and led nowhere. -/
lemma Proper.ofWalk {owner : Entity} {cause : PathError} (h : r.Proper)
    (ht : r.Trouble owner (.path cause)) : cause.OfWalk := by
  cases ht with
  | guard hg hstrays => exact hstrays.ofWalk (h.guard _ hg)
  | check hc =>
      cases hc with
      | bound hp hstrays => exact hstrays.ofWalk (h.bounds _ hp)

end Rule

/-! ### The rules of a type -/

/-- The rules of a type: those of the book, and any rule that is compiled on the side, whatever
width it was bound to since. -/
inductive RuleBook.Offers (b : RuleBook) : Rule → Prop
  | declared {e : RuleBook.Entry} {r : Rule} (he : e ∈ b.entries) (hr : r ∈ e.rules) : Offers b r
  | added {field : String} {d : RuleDecl} {r₀ r : Rule} (h : b.compileRule field d = .ok r₀)
      (hr : r₀.Binds r) : Offers b r

/-- All rules of a type that compiles are proper, whatever widths they were bound to. -/
lemma RuleBook.Offers.proper {t : RuleTable} {typeName : String} {b₀ b : RuleBook} {r : Rule}
    (h : t.compile typeName = .ok b₀) (hb : b₀.Binds b) (hr : b.Offers r) : r.Proper := by
  cases hr with
  | declared he hr =>
      obtain ⟨e₀, he₀, hentry⟩ := exists_left_of_forall₂ hb.entries he
      obtain ⟨r₀, hr₀, hrule⟩ := exists_left_of_forall₂ hentry.rules hr
      obtain ⟨d, hd⟩ := RuleTable.compile_of_mem h he₀ hr₀
      exact (Rule.proper_of_compile hd).binds hrule
  | added hd hrule => exact (Rule.proper_of_compile hd).binds hrule

/-- **Compiled rules do not go wrong**: whatever widths the rules of a type were bound to, and
whatever the object, a rule that has no answer has met a path that leads nowhere from the object, a
value of another width or a bound that is no number; so no path is empty or has a blank name. A
presence check and a custom one fail only with the path of their condition, a check of a length with
that or with the path of its bound, and all other errors come from numeric checks. Whether there is
an error, and which, depends on the check, the condition and the object alone. -/
theorem compiled_rules_do_not_go_wrong {t : RuleTable} {typeName : String} {b₀ b : RuleBook}
    (hcompile : t.compile typeName = .ok b₀) (hbinds : b₀.Binds b) {r : Rule} (hr : b.Offers r)
    (field : Field) (x : Instance) (localizer : Option Localizer) :
    (∀ e, r.validate field x localizer = .error e →
      e.OfRule ∧
        (∀ cause, e = .path cause → cause.OfWalk) ∧
        (r.check = .present ∨ (∃ h, r.check = .custom h) →
          ∃ g, r.guard = some g ∧ g.path.Strays x.object e) ∧
        (∀ bound, r.check = .longer bound ∨ r.check = .shorter bound →
          (∃ g, r.guard = some g ∧ g.path.Strays x.object e) ∨
            ∃ p, bound.path = some p ∧ p.Strays x.object e) ∧
        ((∀ cause, e ≠ .path cause) → ∃ n, r.check = .numeric n)) ∧
      ∀ (r' : Rule) (x' : Instance) (localizer' : Option Localizer),
        r'.check = r.check → r'.guard = r.guard → x'.object = x.object →
          errorOf (r'.validate field x' localizer') = errorOf (r.validate field x localizer) := by
  refine ⟨fun e he => ?_, fun r' x' localizer' hcheck hguard hobject =>
    Rule.errorOf_validate_congr hcheck hguard hobject⟩
  have htrouble := Rule.trouble_of_validate he
  have hproper := hr.proper hcompile hbinds
  refine ⟨htrouble.ofRule, ?_, ?_⟩
  · rintro cause rfl
    exact hproper.ofWalk htrouble
  refine ⟨fun hcheck => ?_, fun bound hcheck => ?_, fun hne => ?_⟩
  · have hslots : r.check.slots = [] := by rcases hcheck with h | ⟨_, h⟩ <;> rw [h] <;> rfl
    have hnumeric : ∀ n, r.check ≠ .numeric n := by rcases hcheck with h | ⟨_, h⟩ <;> simp [h]
    rcases htrouble.strays hnumeric with hguard | ⟨p, hp, _⟩
    · exact hguard
    · rw [hslots] at hp
      cases hp
  · have hslots : r.check.slots = [bound.path] := by rcases hcheck with h | h <;> rw [h] <;> rfl
    have hnumeric : ∀ n, r.check ≠ .numeric n := by rcases hcheck with h | h <;> simp [h]
    rcases htrouble.strays hnumeric with hguard | ⟨p, hp, hstrays⟩
    · exact .inl hguard
    · rw [hslots] at hp
      exact .inr ⟨p, (List.mem_singleton.mp hp).symm, hstrays⟩
  · by_contra hnumeric
    rcases htrouble.strays (fun n hn => hnumeric ⟨n, hn⟩) with
      ⟨_, _, cause, _, he⟩ | ⟨_, _, cause, _, he⟩ <;> exact hne cause he

/-- An order must have a name if its customer has paid. -/
def ifPaid : Rule :=
  ⟨.present, .error, "no name", none, some ⟨⟨["Customer", "Paid"], false⟩⟩, none⟩

/-- An order without a customer cannot tell whether that has paid: the path of the condition leads
nowhere. -/
theorem ifPaid_does_not_go_wrong :
    orders.rules.compile "Order" = .ok ordersBook ∧ ordersBook.Binds ordersBook ∧
      ordersBook.Offers ifPaid ∧
      ifPaid.validate (.ofKey "Name" "Name") (order .null).subject none
        = .error (.path (.missingSegment "Customer.Paid" "Customer" "Order")) ∧
      ∃ g, ifPaid.guard = some g ∧ g.path.Strays (order .null).subject.object
        (.path (.missingSegment "Customer.Paid" "Customer" "Order")) := by
  have hcompile : orders.rules.compile "Order" = .ok ordersBook := rfl
  have hadded : ordersBook.compileRule "Name"
      (.ofClauses .valuePresent [.error "no name", .validateIf "Customer.Paid"]) = .ok ifPaid := by
    rfl
  have hoffers : ordersBook.Offers ifPaid := .added hadded (.refl ifPaid)
  have hfails : ifPaid.validate (.ofKey "Name" "Name") (order .null).subject none
      = .error (.path (.missingSegment "Customer.Paid" "Customer" "Order")) := rfl
  obtain ⟨herrors, _⟩ := compiled_rules_do_not_go_wrong hcompile (.refl ordersBook) hoffers
    (.ofKey "Name" "Name") (order .null).subject none
  obtain ⟨_, _, hcondition, _⟩ := herrors _ hfails
  exact ⟨hcompile, .refl ordersBook, hoffers, hfails, hcondition (.inl rfl)⟩

end FieldRules
