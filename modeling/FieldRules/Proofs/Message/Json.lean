/-
Messages are read from JSON as they were written.

* `Message.objectChars`, `Message.listChars`: strings as an object or a list of
  JSON; `toJsonChars_eq`: a message is written as an object of two members;
* `Message.ofMembers?`: the message that members tell of: one of them is the
  kind, one is the text, and all others do not matter;
* `readMembers_objectChars`, `ofJsonChars?_objectChars`: this is the message
  that is read from an object, whatever the order of its members;
* `json_round_trip`: what is written is read, the kind included.
-/
import FieldRules.Message.Json
import FieldRules.Proofs.Json.Text

namespace FieldRules

open Json

namespace Message

/-! ### Tokens -/

/-- A string is read as it was written, whatever follows. -/
lemma readText_quote (s : String) (rest : List Char) :
    readText (quote s.toList ++ rest) = some (s, rest) := by
  have hread := readString_quoted s.toList rest
  rw [readText, quote, List.append_assoc, List.cons_append]
  simp [skipSpace, isSpace, hread, String.ofList_toList]

lemma readKindName_quote (s : String) (rest : List Char) :
    readKindName (quote s.toList ++ rest) = (MessageKind.ofName? s).map fun k => (k, rest) := by
  rw [readKindName, readText_quote, Option.map_eq_bind]
  rfl

/-- A kind may be a string. -/
lemma readKind_quote (s : String) (rest : List Char) :
    readKind (quote s.toList ++ rest) = (MessageKind.ofName? s).map fun k => (k, rest) := by
  rw [← readKindName_quote, quote, List.append_assoc, List.cons_append]
  rfl

/-! ### Objects -/

/-- A member of an object whose value is a string. -/
def memberChars (e : String × String) : List Char :=
  quote e.1.toList ++ ':' :: quote e.2.toList

/-- Members as an object. -/
def objectChars (es : List (String × String)) : List Char :=
  '\x7b' :: [','].intercalate (es.map memberChars) ++ ['\x7d']

/-- Strings as a list of two. -/
def listChars (kind text : String) : List Char :=
  '[' :: quote kind.toList ++ ',' :: quote text.toList ++ [']']

/-- A message is written as an object with its kind and its text. -/
lemma toJsonChars_eq (m : Message) :
    m.toJsonChars = objectChars [("kind", m.kind.name), ("text", m.text)] := by
  simp [toJsonChars, objectChars, memberChars, List.intercalate]

/-- What has been read when one more member is read, unless it was there before or makes no
sense. -/
def Members.add? (ms : Members) (e : String × String) : Option Members :=
  if e.1 = "kind" then
    if ms.kind.isSome then none
    else (MessageKind.ofName? e.2).map fun k => { ms with kind := some k }
  else if e.1 = "text" then
    if ms.text.isSome then none else some { ms with text := some e.2 }
  else some ms

lemma readMember_quote (ms : Members) (e : String × String) (rest : List Char) :
    readMember e.1 ms (quote e.2.toList ++ rest) = (ms.add? e).map fun ms => (ms, rest) := by
  rw [readMember, Members.add?]
  split
  · split
    · rfl
    · rw [readKind_quote, Option.map_map, Option.map_map]
      rfl
  · split
    · split
      · rfl
      · rw [readText_quote]
        rfl
    · rw [skipAny_quote]
      rfl

/-- A member is read, and then the next ones, or the end of the object. -/
lemma readMembers_member (fuel : Nat) (ms : Members) (e : String × String) (rest : List Char) :
    readMembers (fuel + 1) ms (memberChars e ++ rest)
      = (ms.add? e).bind fun ms =>
          match skipSpace rest with
          | ',' :: r => readMembers fuel ms r
          | '\x7d' :: r => some (ms, r)
          | _ => none := by
  rw [memberChars, List.append_assoc, List.cons_append, readMembers, readText_quote]
  have hcolon : skipSpace (':' :: (quote e.2.toList ++ rest))
      = ':' :: (quote e.2.toList ++ rest) := rfl
  simp only [hcolon, readMember_quote]
  cases ms.add? e <;> rfl

/-- The members of an object are read one after the other, and the brace after them. -/
lemma readMembers_members (fuel : Nat) (ms : Members) {es : List (String × String)}
    (hes : es ≠ []) (hfuel : es.length ≤ fuel) (rest : List Char) :
    readMembers fuel ms ([','].intercalate (es.map memberChars) ++ '\x7d' :: rest)
      = (es.foldlM Members.add? ms).map fun ms => (ms, rest) := by
  induction es generalizing fuel ms with
  | nil => exact absurd rfl hes
  | cons e r ih =>
      obtain ⟨fuel, rfl⟩ : ∃ n, fuel = n + 1 := ⟨fuel - 1, by rw [List.length_cons] at hfuel; omega⟩
      cases r with
      | nil =>
          rw [List.map_singleton, List.intercalate_singleton, readMembers_member,
            List.foldlM_cons]
          cases ms.add? e <;> rfl
      | cons next r =>
          have hlen : (next :: r).length ≤ fuel := by
            rw [List.length_cons] at hfuel
            omega
          rw [List.map_cons, List.map_cons, List.intercalate_cons_cons, List.append_assoc,
            List.append_assoc, readMembers_member, List.foldlM_cons, ← List.map_cons]
          cases hadd : ms.add? e with
          | none => rfl
          | some ms' => exact ih fuel ms' (List.cons_ne_nil next r) hlen

/-- The values of the members with this key. -/
def valuesOf (key : String) (es : List (String × String)) : List String :=
  (es.filter fun e => e.1 == key).map Prod.snd

/-- The message with the one kind and the one text that are given. -/
def ofValues? : List String → List String → Option Message
  | [kind], [text] => (MessageKind.ofName? kind).map fun k => ⟨k, text⟩
  | _, _ => none

/-- The message that members tell of: one of them is the kind, one is the text, and all others do
not matter. -/
def ofMembers? (es : List (String × String)) : Option Message :=
  ofValues? (valuesOf "kind" es) (valuesOf "text" es)

lemma name_of_ofName? {s : String} {k : MessageKind} (h : MessageKind.ofName? s = some k) :
    k.name = s := by
  rw [MessageKind.ofName?] at h
  split at h
  · cases h
    exact Eq.symm ‹_›
  · split at h
    · cases h
      exact Eq.symm ‹_›
    · cases h

/-- No message has two kinds. -/
lemma ofValues?_two_kinds (k k' : String) (ks ts : List String) :
    ofValues? (k :: k' :: ks) ts = none := rfl

/-- No message has two texts. -/
lemma ofValues?_two_texts (ks : List String) (t t' : String) (ts : List String) :
    ofValues? ks (t :: t' :: ts) = none := by
  rcases ks with _ | ⟨k, _ | ⟨k', ks⟩⟩ <;> rfl

/-- No message has a kind that is none. -/
lemma ofValues?_of_ofName? {k : String} (h : MessageKind.ofName? k = none) (ks ts : List String) :
    ofValues? (k :: ks) ts = none := by
  rcases ks with _ | ⟨k', ks⟩ <;> rcases ts with _ | ⟨t, _ | ⟨t', ts⟩⟩ <;> simp [ofValues?, h]

lemma valuesOf_cons_self (key value : String) (es : List (String × String)) :
    valuesOf key ((key, value) :: es) = value :: valuesOf key es := by
  simp [valuesOf]

lemma valuesOf_cons_of_ne {key other : String} (h : other ≠ key) (value : String)
    (es : List (String × String)) : valuesOf key ((other, value) :: es) = valuesOf key es := by
  simp [valuesOf, h]

/-- What members tell of in addition to what has been read. -/
lemma message?_foldlM (ms : Members) (es : List (String × String)) :
    (es.foldlM Members.add? ms).bind Members.message?
      = ofValues? ((ms.kind.map MessageKind.name).toList ++ valuesOf "kind" es)
          (ms.text.toList ++ valuesOf "text" es) := by
  induction es generalizing ms with
  | nil =>
      obtain ⟨kind, text⟩ := ms
      rcases kind with _ | k
      · rfl
      · rcases text with _ | t
        · rfl
        · simp [ofValues?, valuesOf, MessageKind.ofName?_name, Members.message?]
  | cons e r ih =>
      obtain ⟨key, value⟩ := e
      obtain ⟨kind, text⟩ := ms
      rw [List.foldlM_cons]
      by_cases hkind : key = "kind"
      · subst hkind
        rw [valuesOf_cons_self, valuesOf_cons_of_ne (by decide)]
        rcases kind with _ | k
        · cases hvalue : MessageKind.ofName? value with
          | none =>
              have hadd : Members.add? ⟨none, text⟩ ("kind", value) = none := by
                simp [Members.add?, hvalue]
              rw [hadd]
              exact (ofValues?_of_ofName? hvalue _ _).symm
          | some k =>
              have hadd : Members.add? ⟨none, text⟩ ("kind", value) = some ⟨some k, text⟩ := by
                simp [Members.add?, hvalue]
              rw [hadd, ← name_of_ofName? hvalue]
              exact ih ⟨some k, text⟩
        · exact (ofValues?_two_kinds k.name value _ _).symm
      · rw [valuesOf_cons_of_ne hkind]
        by_cases htext : key = "text"
        · subst htext
          rw [valuesOf_cons_self]
          rcases text with _ | t
          · exact ih ⟨kind, some value⟩
          · exact (ofValues?_two_texts _ t value _).symm
        · have hadd : Members.add? ⟨kind, text⟩ (key, value) = some ⟨kind, text⟩ := by
            simp [Members.add?, hkind, htext]
          rw [valuesOf_cons_of_ne htext, hadd]
          exact ih ⟨kind, text⟩

/-- An object has at least as many characters as members. -/
lemma length_le_members (es : List (String × String)) :
    es.length ≤ ([','].intercalate (es.map memberChars)).length := by
  induction es with
  | nil => exact Nat.zero_le _
  | cons e r ih =>
      have hmember : 0 < (memberChars e).length := by simp [memberChars, quote]
      cases r with
      | nil =>
          rw [List.map_singleton, List.intercalate_singleton]
          exact hmember
      | cons next r =>
          rw [List.map_cons] at ih
          rw [List.map_cons, List.map_cons, List.intercalate_cons_cons]
          simp only [List.length_append, List.length_cons] at ih ⊢
          omega

/-- From an object of strings the message is read that its members tell of. -/
lemma ofJsonChars?_objectChars (es : List (String × String)) :
    ofJsonChars? (objectChars es) = ofMembers? es := by
  by_cases hes : es = []
  · rw [hes]
    rfl
  · have hfuel : es.length ≤ ([','].intercalate (es.map memberChars) ++ ['\x7d']).length := by
      rw [List.length_append]
      exact Nat.le_add_right_of_le (length_le_members es)
    have hread := readMembers_members _ ⟨none, none⟩ hes hfuel []
    have hopen : skipSpace (objectChars es)
        = '\x7b' :: ([','].intercalate (es.map memberChars) ++ ['\x7d']) := rfl
    refine Eq.trans ?_ (message?_foldlM ⟨none, none⟩ es)
    rw [ofJsonChars?, hopen]
    simp only [hread]
    cases es.foldlM Members.add? ⟨none, none⟩ with
    | none => rfl
    | some ms =>
        simp only [Option.map_some, Option.bind_some]
        cases ms.message? <;> rfl

/-- From a list of two strings the message is read with this kind and this text. -/
lemma ofJsonChars?_listChars (kind text : String) :
    ofJsonChars? (listChars kind text) = ofValues? [kind] [text] := by
  have hopen : skipSpace (listChars kind text)
      = '[' :: (quote kind.toList ++ ',' :: (quote text.toList ++ [']'])) := by
    simp [listChars, skipSpace, isSpace]
  have hcomma : skipSpace (',' :: (quote text.toList ++ [']']))
      = ',' :: (quote text.toList ++ [']']) := rfl
  rw [ofJsonChars?, hopen]
  simp only [readPair, readKindName_quote, ofValues?]
  cases MessageKind.ofName? kind with
  | none => rfl
  | some k =>
      simp only [Option.map_some, hcomma, readText_quote]
      rfl

/-- A message is read as it was written. -/
lemma ofJson?_toJson (m : Message) : ofJson? m.toJson = some m := by
  rw [ofJson?, toJson, String.toList_ofList, toJsonChars_eq, ofJsonChars?_objectChars]
  have hname := MessageKind.ofName?_name m.kind
  simp [ofMembers?, valuesOf, ofValues?, hname]

/-- **JSON keeps messages**: what is written of a message is an object with its kind and its text,
and it is read as the message with the same kind and the same text; so a message that was read from
any text is read again from what is written of it. From an object of strings a message is read
exactly if one of its members is a kind and one is a text, wherever they stand and whatever the
others are, and from a list of two strings if the first one is a kind; it has this kind and this
text. -/
theorem json_round_trip :
    (∀ m : Message,
        m.toJson = String.ofList (objectChars [("kind", m.kind.name), ("text", m.text)])) ∧
      (∀ m : Message, ofJson? m.toJson = some m) ∧
      (∀ (json : String) (m : Message), ofJson? json = some m → ofJson? m.toJson = some m) ∧
      (∀ es : List (String × String), ofJson? (String.ofList (objectChars es)) = ofMembers? es) ∧
      ∀ kind text : String,
        ofJson? (String.ofList (listChars kind text))
          = (MessageKind.ofName? kind).map fun k => ⟨k, text⟩ := by
  refine ⟨fun m => ?_, ofJson?_toJson, fun _ m _ => ofJson?_toJson m, fun es => ?_,
    fun kind text => ?_⟩
  · rw [toJson, toJsonChars_eq]
  · rw [ofJson?, String.toList_ofList, ofJsonChars?_objectChars]
  · rw [ofJson?, String.toList_ofList, ofJsonChars?_listChars]
    rfl

end Message

end FieldRules
