/-
What a registry becomes in the course of calls.

* `Registry.Call`, `Registry.afterCalls`, `Registry.ofCalls`: the calls to a
  registry, those that come with an action included, and the registry after a
  sequence of them;
* `Call.asks?`, `Call.offer?`, `Call.builds?`, `Call.leaves`: the model whose book
  a call asks for, the book of a type and the type that it would build, and what
  it makes of a book that is there;
* `get?_apply`, `get?_afterCalls`: the book of a type after a call, and after all
  calls since it was built;
* `names_apply`, `names_ofCalls`: the types that were built;
* `books_are_written_once`: the first declarations of a type that compile count.
-/
import FieldRules.Proofs.Site.Books
import FieldRules.Proofs.Site.Visits

namespace FieldRules

namespace Registry

variable {r : Registry} {m : Model} {typeName : String}

/-! ### Calls -/

/-- A call to a registry. -/
inductive Call where
  /-- Ask for the book of a model, and build it if need be. -/
  | getOrBuild (m : Model)
  /-- Ask for the book of a type, if it was built. -/
  | get (typeName : String)
  /-- Ask whether the book of a type was built. -/
  | contains (typeName : String)
  /-- Ask how many books were built. -/
  | size
  /-- Do something to an object of a model. -/
  | visit (m : Model) (v : Visit)

/-- What a call is told. -/
inductive Answer where
  /-- A book, or why there is none. -/
  | book (o : Except Error RuleBook)
  /-- A book, if it is there. -/
  | found (b : Option RuleBook)
  /-- Yes or no. -/
  | whether (b : Bool)
  /-- A number. -/
  | count (n : Nat)
  /-- The reply to an action. -/
  | reply (r : Reply)

namespace Call

/-- The answer to the call, and the registry afterwards. -/
def apply (r : Registry) : Call → Answer × Registry
  | getOrBuild m => (.book (r.getOrBuild m).1, (r.getOrBuild m).2)
  | get typeName => (.found (r.get? typeName), r)
  | contains typeName => (.whether (r.contains typeName), r)
  | size => (.count r.size, r)
  | visit m v => (.reply (v.apply m r).1, (v.apply m r).2.registry)

/-- The model whose book the call asks for. -/
def asks? : Call → Option Model
  | getOrBuild m => some m
  | visit m v => if v.action.needsBook then some m else none
  | _ => none

/-- The book of the type that the call would build: it asks for one, and the declarations that it
gives compile. -/
def offer? (typeName : String) (c : Call) : Option RuleBook :=
  c.asks?.bind fun m =>
    if m.typeName = typeName then (m.rules.compile typeName).toOption else none

/-- The type whose book the call would build. -/
def builds? (c : Call) : Option String :=
  c.asks?.bind fun m => (m.rules.compile m.typeName).toOption.map fun _ => m.typeName

/-- What the call makes of the book of the type. -/
def leaves (typeName : String) (b : RuleBook) : Call → RuleBook
  | visit m v => if m.typeName = typeName then v.action.leaves v.subject b else b
  | _ => b

/-- What calls make of the book of the type, one after the other. -/
def leavesAll (typeName : String) (b : RuleBook) (calls : List Call) : RuleBook :=
  calls.foldl (fun b c => c.leaves typeName b) b

end Call

/-- The registry after calls. -/
def afterCalls (r : Registry) (calls : List Call) : Registry :=
  calls.foldl (fun r c => (c.apply r).2) r

/-- The registry after calls, beginning without books. -/
def ofCalls (calls : List Call) : Registry :=
  calls.foldl (fun r c => (c.apply r).2) .empty

/-! ### One call -/

variable {c : Call}

/-- An action leaves the books of the other types alone. -/
lemma get?_visit_of_ne (v : Visit) (hne : typeName ≠ m.typeName) :
    (v.apply m r).2.registry.get? typeName = r.get? typeName := by
  rcases v.action.registry_apply_cases m ⟨r, v.subject, v.proxy⟩ with
    ⟨_, hregistry⟩ | ⟨_, hregistry, _⟩ | ⟨_, b, _, hregistry⟩
  · rw [Visit.apply, hregistry]
  · rw [Visit.apply, hregistry, get?_getOrBuild_of_ne hne]
  · rw [Visit.apply, hregistry, get?_update_of_ne hne, get?_getOrBuild_of_ne hne]

/-- An action that goes on with a book leaves that one in the registry. -/
lemma get?_visit {v : Visit} (hneeds : v.action.needsBook = true) :
    (v.apply m r).2.registry.get? m.typeName
      = (r.getOrBuild m).1.toOption.map fun b => v.action.leaves v.subject b := by
  have hkept := get?_getOrBuild r m
  rcases v.action.registry_apply_cases m ⟨r, v.subject, v.proxy⟩ with
    ⟨hidle, _⟩ | ⟨_, hregistry, hleaves⟩ | ⟨_, b, hbook, hregistry⟩
  · rw [hneeds] at hidle
    cases hidle
  · rw [Visit.apply, hregistry, hkept]
    cases hbook : (r.getOrBuild m).1 with
    | error e => rfl
    | ok b => exact congrArg some (hleaves b hbook).symm
  · rw [hbook] at hkept ⊢
    rw [Visit.apply, hregistry, get?_update_self (by rw [hkept]; rfl)]
    rfl

section Others

variable (h : ∀ m, c.asks? = some m → m.typeName ≠ typeName)

include h

/-- A call that does not ask for the book of a type does not build it. -/
lemma Call.offer?_of_ne : c.offer? typeName = none := by
  rw [offer?, Option.bind_eq_none_iff]
  intro m hm
  exact if_neg (h m hm)

/-- A call that does not ask for the book of a type makes nothing of it. -/
lemma Call.leaves_of_ne (b : RuleBook) : c.leaves typeName b = b := by
  cases c with
  | visit m v =>
      rw [leaves]
      split
      · rename_i hname
        cases hneeds : v.action.needsBook with
        | false => exact Action.leaves_of_needsBook_eq_false hneeds v.subject b
        | true => exact absurd hname (h m (if_pos hneeds))
      · rfl
  | _ => rfl

/-- A call that does not ask for the book of a type leaves it alone in the registry. -/
lemma get?_apply_of_ne (r : Registry) : (c.apply r).2.get? typeName = r.get? typeName := by
  cases c with
  | get _ => rfl
  | contains _ => rfl
  | size => rfl
  | getOrBuild m => exact get?_getOrBuild_of_ne (h m rfl).symm
  | visit m v =>
      cases hneeds : v.action.needsBook with
      | false =>
          exact congrArg (Registry.get? · typeName)
            (Action.registry_apply_of_needsBook_eq_false hneeds)
      | true => exact get?_visit_of_ne v (h m (if_pos hneeds)).symm

end Others

/-- The book of a type after a call: it is the one that was there, or the one that the call builds,
as the call leaves it. -/
lemma get?_apply (r : Registry) (c : Call) (typeName : String) :
    (c.apply r).2.get? typeName
      = ((r.get? typeName).or (c.offer? typeName)).map fun b => c.leaves typeName b := by
  by_cases h : ∀ m, c.asks? = some m → m.typeName ≠ typeName
  · simp only [get?_apply_of_ne h, Call.offer?_of_ne h, Call.leaves_of_ne h, Option.or_none,
      Option.map_id']
  · push Not at h
    obtain ⟨m, hasks, rfl⟩ := h
    have hoffer : (r.get? m.typeName).or (c.offer? m.typeName) = (r.getOrBuild m).1.toOption := by
      rw [toOption_getOrBuild, Call.offer?, hasks]
      exact congrArg _ (if_pos rfl)
    rw [hoffer]
    cases c with
    | get _ => cases hasks
    | contains _ => cases hasks
    | size => cases hasks
    | getOrBuild m' =>
        obtain rfl : m' = m := Option.some.inj hasks
        exact (get?_getOrBuild r m').trans Option.map_id'.symm
    | visit m' v =>
        rw [Call.asks?] at hasks
        split at hasks
        · rename_i hneeds
          obtain rfl : m' = m := Option.some.inj hasks
          have hleaves : ∀ b,
              (Call.visit m' v).leaves m'.typeName b = v.action.leaves v.subject b :=
            fun b => if_pos rfl
          simp only [hleaves]
          exact get?_visit hneeds
        · cases hasks

lemma names_visit (r : Registry) (m : Model) (v : Visit) :
    (v.apply m r).2.registry.names
      = if v.action.needsBook then (r.getOrBuild m).2.names else r.names := by
  rcases v.action.registry_apply_cases m ⟨r, v.subject, v.proxy⟩ with
    ⟨hneeds, hregistry⟩ | ⟨hneeds, hregistry, _⟩ | ⟨hneeds, b, _, hregistry⟩
  · rw [Visit.apply, hregistry, hneeds]
    rfl
  · rw [Visit.apply, hregistry, if_pos hneeds]
  · rw [Visit.apply, hregistry, if_pos hneeds, names_update]

/-- The types that were built, after a call: one more comes last if the call builds it, unless it
was built before. -/
lemma names_apply (r : Registry) (c : Call) :
    (c.apply r).2.names = (c.builds?.elim r.names fun name => enlist r.names name) := by
  have hasked : ∀ m : Model, (r.getOrBuild m).2.names
      = ((m.rules.compile m.typeName).toOption.map fun _ => m.typeName).elim r.names
          fun name => enlist r.names name := by
    intro m
    cases hcompile : m.rules.compile m.typeName with
    | ok b => exact names_getOrBuild_of_ok hcompile
    | error e => rw [snd_getOrBuild_of_error hcompile]; rfl
  cases c with
  | get _ => rfl
  | contains _ => rfl
  | size => rfl
  | getOrBuild m => exact hasked m
  | visit m v =>
      change (v.apply m r).2.registry.names = _
      rw [names_visit, Call.builds?, Call.asks?]
      split
      · exact hasked m
      · rfl

/-! ### Many calls -/

lemma afterCalls_append_singleton (r : Registry) (calls : List Call) (c : Call) :
    r.afterCalls (calls ++ [c]) = (c.apply (r.afterCalls calls)).2 := by
  rw [afterCalls, afterCalls, List.foldl_append]
  rfl

lemma ofCalls_append_singleton (calls : List Call) (c : Call) :
    ofCalls (calls ++ [c]) = (c.apply (ofCalls calls)).2 :=
  afterCalls_append_singleton .empty calls c

/-- A type has no book as long as no call would build it. -/
lemma get?_ofCalls_of_forall {calls : List Call} (h : ∀ c ∈ calls, c.offer? typeName = none) :
    (ofCalls calls).get? typeName = none := by
  induction calls using List.reverseRecOn with
  | nil => rfl
  | append_singleton calls c ih =>
      have hfront := ih fun c' hc' => h c' (List.mem_append_left [c] hc')
      have hlast := h c (List.mem_append_right calls List.mem_cons_self)
      rw [ofCalls_append_singleton, get?_apply, hfront, hlast]
      rfl

/-- A book that is there is not built again: it is what the calls make of it. -/
lemma get?_afterCalls {b : RuleBook} (h : r.get? typeName = some b) (calls : List Call) :
    (r.afterCalls calls).get? typeName = some (Call.leavesAll typeName b calls) := by
  induction calls using List.reverseRecOn with
  | nil => exact h
  | append_singleton calls c ih =>
      rw [afterCalls_append_singleton, get?_apply, ih, Call.leavesAll, Call.leavesAll,
        List.foldl_append]
      rfl

lemma get?_ofCalls_append {front : List Call} {b : RuleBook}
    (h : (ofCalls front).get? typeName = some b) (back : List Call) :
    (ofCalls (front ++ back)).get? typeName = some (Call.leavesAll typeName b back) := by
  have hafter := get?_afterCalls h back
  rwa [ofCalls, afterCalls, ← List.foldl_append] at hafter

/-- The types that were built are those that calls would build, in the order in which they first
would. -/
lemma names_ofCalls (calls : List Call) :
    (ofCalls calls).names = (calls.filterMap Call.builds?).eraseDups := by
  induction calls using List.reverseRecOn with
  | nil => rfl
  | append_singleton calls c ih =>
      rw [ofCalls_append_singleton, names_apply, ih, List.filterMap_append]
      cases hbuilds : c.builds? with
      | none => simp [hbuilds]
      | some name =>
          have hlast : List.filterMap Call.builds? [c] = [name] := by simp [hbuilds]
          rw [hlast, eraseDups_append_singleton]
          rfl

/-- Calls make no more of a book than to bind it. -/
lemma Call.binds_leavesAll (typeName : String) (b : RuleBook) (calls : List Call) :
    b.Binds (leavesAll typeName b calls) := by
  induction calls using List.reverseRecOn with
  | nil => exact .refl b
  | append_singleton calls c ih =>
      rw [leavesAll, List.foldl_append]
      refine ih.trans ?_
      cases c with
      | visit m v =>
          rw [List.foldl_cons, List.foldl_nil, leaves]
          split
          · exact v.action.binds_leaves v.subject _
          · exact .refl _
      | _ => exact .refl _

end Registry

/-- **A book is written once**: after any calls to a registry, whatever declarations they give, the
book of a type is the one of the first call that gave declarations which compile, and nothing but
the widths that uses of the type have bound since is different about it; that is what a call finds,
and what it gets when it gives other declarations of the type. As long as there was no such call the
type has no book: the first declarations that compile are what counts, and any others end in their
error, which leaves the registry as it is; so does every action on an object that needs the book,
and it leaves the object as it is too. A call that asks for the book of another type leaves this one
alone, and there are as many books as types for which a call gave declarations that compile. -/
theorem books_are_written_once (calls : List Registry.Call) (typeName : String) :
    (∀ front c back b, calls = front ++ c :: back →
      (∀ c' ∈ front, c'.offer? typeName = none) → c.offer? typeName = some b →
        ∃ book, book = Registry.Call.leavesAll typeName b (c :: back) ∧ b.Binds book ∧
          ((Registry.Call.get typeName).apply (.ofCalls calls)).1 = .found (some book) ∧
          ((Registry.Call.contains typeName).apply (.ofCalls calls)).1 = .whether true ∧
          ∀ m : Model, m.typeName = typeName →
            (Registry.Call.getOrBuild m).apply (.ofCalls calls)
              = (.book (.ok book), .ofCalls calls)) ∧
    ((∀ c ∈ calls, c.offer? typeName = none) →
      ((Registry.Call.get typeName).apply (.ofCalls calls)).1 = .found none ∧
      ((Registry.Call.contains typeName).apply (.ofCalls calls)).1 = .whether false ∧
      ∀ m : Model, m.typeName = typeName →
        (∀ b, m.rules.compile typeName = .ok b →
          ((Registry.Call.getOrBuild m).apply (.ofCalls calls)).1 = .book (.ok b)) ∧
        ∀ e, m.rules.compile typeName = .error e →
          (Registry.Call.getOrBuild m).apply (.ofCalls calls)
              = (.book (.error e), .ofCalls calls) ∧
            ∀ (a : Action) (x : Instance) (proxy : Option Store), a.needsBook = true →
              a.apply m ⟨.ofCalls calls, x, proxy⟩ = (.failed e, ⟨.ofCalls calls, x, proxy⟩)) ∧
    (∀ c : Registry.Call, (∀ m, c.asks? = some m → m.typeName ≠ typeName) →
      (c.apply (.ofCalls calls)).2.get? typeName = (Registry.ofCalls calls).get? typeName) ∧
    (Registry.Call.size.apply (.ofCalls calls)).1
      = .count (calls.filterMap Registry.Call.builds?).eraseDups.length := by
  refine ⟨fun front c back b hcalls hfront hc => ?_, fun hcalls => ?_,
    fun c hc => Registry.get?_apply_of_ne hc _, ?_⟩
  · have hfirst : (Registry.ofCalls (front ++ [c])).get? typeName
        = some (c.leaves typeName b) := by
      rw [Registry.ofCalls_append_singleton, Registry.get?_apply,
        Registry.get?_ofCalls_of_forall hfront, hc]
      rfl
    have hlast := Registry.get?_ofCalls_append hfirst back
    rw [List.append_assoc, List.singleton_append, ← hcalls] at hlast
    refine ⟨_, rfl, Registry.Call.binds_leavesAll typeName b (c :: back),
      congrArg Registry.Answer.found hlast, ?_, ?_⟩
    · rw [Registry.Call.apply, Registry.contains, hlast]
      rfl
    · rintro m rfl
      rw [Registry.Call.apply, Registry.getOrBuild_of_get? hlast]
      rfl
  · have hnone := Registry.get?_ofCalls_of_forall hcalls
    refine ⟨congrArg Registry.Answer.found hnone, ?_, ?_⟩
    · rw [Registry.Call.apply, Registry.contains, hnone]
      rfl
    rintro m rfl
    have hcompile := Registry.fst_getOrBuild_of_none hnone
    refine ⟨fun b hb => congrArg Registry.Answer.book (hcompile.trans hb), fun e he => ?_⟩
    have herror := hcompile.trans he
    refine ⟨?_, fun a x proxy hneeds => ?_⟩
    · rw [Registry.Call.apply, herror, Registry.snd_getOrBuild_of_error he]
    · exact Action.apply_of_getOrBuild_error (s := ⟨.ofCalls calls, x, proxy⟩) hneeds herror
  · have hsize : (Registry.ofCalls calls).size
        = (calls.filterMap Registry.Call.builds?).eraseDups.length := by
      calc (Registry.ofCalls calls).size = (Registry.ofCalls calls).names.length :=
            (List.length_map Prod.fst).symm
        _ = (calls.filterMap Registry.Call.builds?).eraseDups.length := by
            rw [Registry.names_ofCalls]
    exact congrArg Registry.Answer.count hsize

/-- Orders with a rule that says nothing of its messages. -/
def mutteringOrders : Model :=
  ⟨"Order", RuleTable.empty.field (.ofKey "Name" "Name") [.ofClauses .valuePresent []]⟩

/-- Orders without rules. -/
def lawlessOrders : Model := ⟨"Order", .empty⟩

/-- Declarations of orders that do not compile, an order that is validated with others, and more
declarations. -/
def orderCalls : List Registry.Call :=
  [.getOrBuild mutteringOrders, .visit orders ⟨(order sevenUnits).subject, none, .validateAll⟩,
    .getOrBuild lawlessOrders]

/-- The book of orders comes from the second call, which has bound the rule for prices. -/
theorem book_of_orders_is_written_once :
    Action.validateAll.apply mutteringOrders
        ⟨.ofCalls [.getOrBuild mutteringOrders], (order sevenUnits).subject, none⟩
      = (.failed (.configuration "Order" "Name" "ValuePresent" "no message kind was declared"),
          ⟨.ofCalls [.getOrBuild mutteringOrders], (order sevenUnits).subject, none⟩) ∧
      (Registry.Call.size.apply (.ofCalls orderCalls)).1 = .count 1 ∧
      ∃ book, (Registry.Call.getOrBuild lawlessOrders).apply (.ofCalls orderCalls)
          = (.book (.ok book), .ofCalls orderCalls) ∧
        (book.entries.flatMap fun e => e.rules.map fun r => r.check.width?)
          = [none, some .int] := by
  have hmuttering : (Registry.Call.getOrBuild mutteringOrders).offer? "Order" = none := rfl
  have hfront : ∀ c ∈ [Registry.Call.getOrBuild mutteringOrders], c.offer? "Order" = none := by
    intro c hc
    rw [List.mem_singleton.mp hc]
    exact hmuttering
  obtain ⟨hwritten, _, _, hsize⟩ := books_are_written_once orderCalls "Order"
  obtain ⟨_, hunwritten, _⟩ := books_are_written_once [.getOrBuild mutteringOrders] "Order"
  obtain ⟨book, hbook, _, _, _, hfound⟩ := hwritten [_] _ _ ordersBook rfl hfront rfl
  obtain ⟨_, _, hmodels⟩ := hunwritten hfront
  obtain ⟨_, hfailed⟩ := (hmodels mutteringOrders rfl).2 _ rfl
  refine ⟨hfailed .validateAll _ none rfl, hsize.trans rfl, book, hfound lawlessOrders rfl, ?_⟩
  rw [hbook]
  rfl

end FieldRules
