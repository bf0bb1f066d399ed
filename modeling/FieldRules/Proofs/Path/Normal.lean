/-
The paths that texts are read as, and the texts that are read as one path.

* `Path.unsigned`: what remains of a text once it is trimmed and one leading
  `!` is taken away; `pieces_append_point`, `pieces_blank_append`,
  `pieces_append_blank`: its pieces between points, and that blank characters
  around them do not matter;
* `parse_eq`: a text is read by the pieces of what remains of it;
* `Path.Normal`: a path with names that are trimmed and free of points, the
  first of which does not begin with `!` unless the path is negated;
* `normal_of_parse`, `parse_display_of_normal`: these are the paths that are
  read, and the display of each of them is read as itself;
* `Path.Loosens`: blank characters come in where they do not matter;
* `parse_of_loosens`: a text that is read is read as the same path then;
* `parse_inverts_display`: all of this, and which texts are no paths.
-/
import FieldRules.Proofs.Path

namespace FieldRules

namespace Path

variable {cs ws : List Char} {raw : String} {p : Path}

/-! ### Pieces -/

/-- A property of texts is one of those without a point that goes on to what has a point in front
of it. -/
lemma point_induction {P : List Char → Prop} (pointless : ∀ cs, '.' ∉ cs → P cs)
    (point : ∀ cs r, '.' ∉ cs → P r → P (cs ++ '.' :: r)) (cs : List Char) : P cs := by
  by_cases h : '.' ∈ cs
  · obtain ⟨front, rest, hcs, hfront⟩ := List.eq_append_cons_of_mem h
    have hlt : rest.length < cs.length := by
      rw [hcs, List.length_append, List.length_cons]
      omega
    rw [hcs]
    exact point front rest hfront (point_induction pointless point rest)
  · exact pointless cs h
termination_by cs.length

/-- A text without a point is one piece. -/
lemma pieces_of_not_mem (h : '.' ∉ cs) : pieces cs = [Text.trim cs] := by
  rw [pieces, List.splitOn_eq_singleton h]
  rfl

/-- A point comes between two pieces. -/
lemma pieces_append_point (cs r : List Char) :
    pieces (cs ++ '.' :: r) = pieces cs ++ pieces r := by
  rw [pieces, List.splitOn_append_cons_self, List.map_append]
  rfl

/-- There is no point among blank characters. -/
lemma point_not_mem_blank (hws : ws.all Text.isBlankChar = true) : '.' ∉ ws := by
  intro h
  have hpoint : Text.isBlankChar '.' = true := List.all_eq_true.mp hws '.' h
  exact absurd hpoint (by decide)

/-- Blank characters in front of a text do not matter to its pieces. -/
lemma pieces_blank_append (hws : ws.all Text.isBlankChar = true) (cs : List Char) :
    pieces (ws ++ cs) = pieces cs := by
  have hpoint := point_not_mem_blank hws
  induction cs using point_induction with
  | pointless cs h =>
      rw [pieces_of_not_mem h, pieces_of_not_mem (by simp [h, hpoint]),
        Text.trim_blank_append hws]
  | point cs r h _ =>
      rw [← List.append_assoc, pieces_append_point, pieces_append_point, pieces_of_not_mem h,
        pieces_of_not_mem (by simp [h, hpoint]), Text.trim_blank_append hws]

/-- Blank characters behind a text do not matter to its pieces. -/
lemma pieces_append_blank (hws : ws.all Text.isBlankChar = true) (cs : List Char) :
    pieces (cs ++ ws) = pieces cs := by
  have hpoint := point_not_mem_blank hws
  induction cs using point_induction with
  | pointless cs h =>
      rw [pieces_of_not_mem h, pieces_of_not_mem (by simp [h, hpoint]),
        Text.trim_append_blank hws]
  | point cs r _ ih =>
      rw [List.append_assoc, List.cons_append, pieces_append_point, pieces_append_point, ih]

/-- A text that is trimmed in front keeps its pieces. -/
lemma pieces_trimStart (cs : List Char) : pieces (Text.trimStart cs) = pieces cs := by
  obtain ⟨ws, hws, hcs⟩ := Text.exists_trimStart cs
  rw [← pieces_blank_append hws, hcs]

/-- A text that is trimmed behind keeps its pieces. -/
lemma pieces_trimEnd (cs : List Char) : pieces (Text.trimEnd cs) = pieces cs := by
  obtain ⟨ws, hws, hcs⟩ := Text.exists_trimEnd cs
  rw [← pieces_append_blank hws, hcs]

/-- No piece has a point. -/
lemma point_not_mem_piece {piece : List Char} (h : piece ∈ pieces cs) : '.' ∉ piece := by
  induction cs using point_induction with
  | pointless cs hcs =>
      rw [pieces_of_not_mem hcs, List.mem_singleton] at h
      rw [h]
      exact fun hmem => hcs (Text.mem_of_mem_trim hmem)
  | point cs r hcs ih =>
      rw [pieces_append_point, pieces_of_not_mem hcs, List.mem_append, List.mem_singleton] at h
      rcases h with rfl | h
      · exact fun hmem => hcs (Text.mem_of_mem_trim hmem)
      · exact ih h

/-- Points come back between the pieces that they divide. -/
lemma exists_pieces_eq_cons (cs : List Char) :
    ∃ first rest, pieces cs = Text.trim first :: rest ∧ (first ≠ [] → cs.head? = first.head?) := by
  induction cs using point_induction with
  | pointless cs hcs => exact ⟨cs, [], pieces_of_not_mem hcs, fun _ => rfl⟩
  | point cs r hcs _ =>
      refine ⟨cs, pieces r, ?_, fun hne => List.head?_append_of_ne_nil cs hne⟩
      rw [pieces_append_point, pieces_of_not_mem hcs]
      rfl

/-! ### Reading -/

/-- A text without the `!` that it begins with, if it does. -/
def dropSign : List Char → List Char
  | '!' :: r => r
  | cs => cs

/-- What remains of a text once it is trimmed and one leading `!` is taken away. -/
def unsigned (raw : String) : List Char :=
  dropSign (Text.trim raw.toList)

lemma dropSign_of_head?_ne (h : cs.head? ≠ some '!') : dropSign cs = cs := by
  rw [dropSign.eq_def]
  split
  · exact absurd rfl h
  · rfl

/-- What is read of a text is what remains of it, trimmed in front. -/
lemma snd_splitNegation_trim (raw : String) :
    (splitNegation (Text.trim raw.toList)).2 = Text.trimStart (unsigned raw) := by
  rw [unsigned]
  by_cases h : (Text.trim raw.toList).head? = some '!'
  · obtain ⟨r, hr⟩ := List.head?_eq_some_iff.mp h
    rw [hr]
    rfl
  · rw [splitNegation_of_head?_ne h, dropSign_of_head?_ne h]
    exact (Text.isTrimmed_trim raw.toList).trimStart_eq.symm

/-- A text is read by the pieces of what remains of it. -/
lemma parse_eq (raw : String) :
    parse raw =
      if (unsigned raw).all Text.isBlankChar then .error .empty
      else if (pieces (unsigned raw)).any List.isEmpty then .error (.emptySegment raw)
      else .ok ⟨(pieces (unsigned raw)).map String.ofList, startsNegated raw⟩ := by
  have hbody : (Text.trimStart (unsigned raw)).isEmpty = (unsigned raw).all Text.isBlankChar := by
    rw [Bool.eq_iff_iff, List.isEmpty_iff, Text.trimStart_eq_nil_iff]
  rw [parse]
  simp only [fst_splitNegation_trim, snd_splitNegation_trim, pieces_trimStart, hbody]

/-- A text that is blank is one piece, of which nothing remains. -/
lemma pieces_of_blank (h : cs.all Text.isBlankChar = true) : pieces cs = [[]] := by
  rw [pieces_of_not_mem (point_not_mem_blank h), Text.trim_eq_nil_iff.mpr h]

/-- A text is a path exactly if something remains of each of its pieces. -/
lemma parse_eq_ok_iff :
    parse raw = .ok p ↔
      (∀ piece ∈ pieces (unsigned raw), piece ≠ []) ∧
        p = ⟨(pieces (unsigned raw)).map String.ofList, startsNegated raw⟩ := by
  rw [parse_eq]
  by_cases hblank : (unsigned raw).all Text.isBlankChar = true
  · rw [if_pos hblank, pieces_of_blank hblank]
    simp
  · rw [if_neg hblank]
    by_cases hempty : (pieces (unsigned raw)).any List.isEmpty = true
    · rw [if_pos hempty]
      obtain ⟨piece, hmem, hnil⟩ := List.any_eq_true.mp hempty
      refine ⟨nofun, fun h => ?_⟩
      exact absurd (List.isEmpty_iff.mp hnil) (h.1 piece hmem)
    · rw [if_neg hempty, Except.ok.injEq, eq_comm, iff_and_self]
      intro _ piece hmem hnil
      exact hempty (List.any_eq_true.mpr ⟨piece, hmem, List.isEmpty_iff.mpr hnil⟩)

/-! ### Normal paths -/

/-- A path with names that are trimmed and free of points, the first of which does not begin with
`!` unless the path is negated. -/
structure Normal (p : Path) : Prop where
  /-- There is a name. -/
  segments_ne_nil : p.segments ≠ []
  /-- No name is empty. -/
  ne_empty : ∀ s ∈ p.segments, s ≠ ""
  /-- No name begins or ends with a blank character. -/
  isTrimmed : ∀ s ∈ p.segments, Text.IsTrimmed s.toList
  /-- No name has a point. -/
  pointless : ∀ s ∈ p.segments, '.' ∉ s.toList
  /-- The first name of a path that is not negated begins with something else than `!`. -/
  unsigned : p.negated = false → ∀ s, p.segments.head? = some s → s.toList.head? ≠ some '!'

/-- All of a trimmed text remains if it is not negated. -/
lemma unsigned_of_startsNegated (h : startsNegated raw = false) :
    unsigned raw = Text.trim raw.toList ∧ (unsigned raw).head? ≠ some '!' := by
  rw [startsNegated, ← Text.head?_trim] at h
  have hhead : (Text.trim raw.toList).head? ≠ some '!' := by simpa using h
  rw [unsigned, dropSign_of_head?_ne hhead]
  exact ⟨rfl, hhead⟩

/-- A path that is read from a text is normal. -/
lemma normal_of_parse (h : parse raw = .ok p) : p.Normal := by
  obtain ⟨hne, rfl⟩ := parse_eq_ok_iff.mp h
  have hmem : ∀ s ∈ (pieces (unsigned raw)).map String.ofList,
      s.toList ∈ pieces (unsigned raw) := by
    intro s hs
    obtain ⟨piece, hpiece, rfl⟩ := List.mem_map.mp hs
    rwa [String.toList_ofList]
  refine ⟨segments_ne_nil_of_parse h, fun s hs => ?_, fun s hs => ?_, fun s hs => ?_,
    fun hneg s hs => ?_⟩
  · exact fun hempty => hne _ (hmem s hs) (String.toList_eq_nil_iff.mpr hempty)
  · obtain ⟨piece, _, hpiece⟩ := List.mem_map.mp (hmem s hs)
    rw [← hpiece]
    exact Text.isTrimmed_trim piece
  · exact point_not_mem_piece (hmem s hs)
  · obtain ⟨first, rest, hpieces, hhead⟩ := exists_pieces_eq_cons (unsigned raw)
    obtain ⟨hunsigned, hsign⟩ := unsigned_of_startsNegated hneg
    rw [hpieces] at hne hs
    obtain rfl := Option.some.inj hs
    rw [String.toList_ofList]
    -- The text is trimmed, so that its first piece begins with a character that is not blank.
    cases first with
    | nil => exact absurd rfl (hne _ List.mem_cons_self)
    | cons c r =>
        have hc := hhead (List.cons_ne_nil c r)
        have hfirst : Text.isBlankChar c = false := by
          rw [hunsigned] at hc
          exact (Text.isTrimmed_trim raw.toList).first c hc
        rw [Text.head?_trim, List.find?_cons_of_pos (by simp [hfirst]), ← List.head?_cons, ← hc]
        exact hsign

/-- Trimmed names that are joined by points give a trimmed text, which begins as the first one. -/
lemma isTrimmed_intercalate {names : List (List Char)} (hnames : names ≠ [])
    (h : ∀ name ∈ names, name ≠ [] ∧ Text.IsTrimmed name) :
    Text.IsTrimmed (['.'].intercalate names) ∧ ['.'].intercalate names ≠ [] ∧
      (['.'].intercalate names).head? = names.head?.bind List.head? := by
  induction names with
  | nil => exact absurd rfl hnames
  | cons name rest ih =>
      obtain ⟨hne, htrimmed⟩ := h name List.mem_cons_self
      cases rest with
      | nil =>
          rw [List.intercalate_singleton]
          exact ⟨htrimmed, hne, rfl⟩
      | cons next rest =>
          obtain ⟨hrest, hrest_ne, _⟩ := ih (List.cons_ne_nil next rest) fun n hn =>
            h n (List.mem_cons_of_mem name hn)
          rw [List.intercalate_cons_cons, List.append_assoc, List.singleton_append]
          exact ⟨htrimmed.append_cons hne hrest hrest_ne '.', by simp,
            List.head?_append_of_ne_nil name hne⟩

variable {d : List Char}

/-- A text that begins with `!` is negated, and the rest of it remains. -/
lemma unsigned_cons (h : raw.toList = '!' :: d) (htrimmed : Text.IsTrimmed ('!' :: d)) :
    startsNegated raw = true ∧ unsigned raw = d := by
  rw [startsNegated, unsigned, ← Text.head?_trim, h, htrimmed.trim_eq]
  exact ⟨rfl, rfl⟩

/-- A trimmed text that begins with something else is not negated, and all of it remains. -/
lemma unsigned_of_ne (h : raw.toList = d) (htrimmed : Text.IsTrimmed d)
    (hsign : d.head? ≠ some '!') : startsNegated raw = false ∧ unsigned raw = d := by
  rw [startsNegated, unsigned, ← Text.head?_trim, h, htrimmed.trim_eq,
    dropSign_of_head?_ne hsign]
  exact ⟨by simpa using hsign, rfl⟩

/-- The display of a normal path has the sign and the names of the path. -/
lemma Normal.unsigned_display (h : p.Normal) :
    startsNegated p.display = p.negated ∧ Path.unsigned p.display = p.dottedChars := by
  have hnames : ∀ name ∈ p.segments.map String.toList, name ≠ [] ∧ Text.IsTrimmed name := by
    intro name hname
    obtain ⟨s, hs, rfl⟩ := List.mem_map.mp hname
    exact ⟨fun hnil => h.ne_empty s hs (String.toList_eq_nil_iff.mp hnil), h.isTrimmed s hs⟩
  have hne : p.segments.map String.toList ≠ [] := by simpa using h.segments_ne_nil
  obtain ⟨htrimmed, _, hhead⟩ := isTrimmed_intercalate hne hnames
  cases hneg : p.negated with
  | true =>
      have hdisplay : p.display.toList = '!' :: p.dottedChars := by
        rw [display, hneg, String.toList_ofList]
        rfl
      exact unsigned_cons hdisplay (htrimmed.cons (by decide))
  | false =>
      have hdisplay : p.display.toList = p.dottedChars := by
        rw [display, hneg, String.toList_ofList]
        rfl
      refine unsigned_of_ne hdisplay htrimmed ?_
      rw [dottedChars, hhead]
      cases hseg : p.segments with
      | nil => exact absurd hseg h.segments_ne_nil
      | cons s rest => exact h.unsigned hneg s (by rw [hseg]; rfl)

/-- The names of a normal path are the pieces between its points. -/
lemma Normal.pieces_dottedChars (h : p.Normal) :
    pieces p.dottedChars = p.segments.map String.toList := by
  rw [pieces, dottedChars, List.splitOn_intercalate '.' _ (by simpa using h.segments_ne_nil),
    List.map_map]
  · refine List.map_congr_left fun s hs => ?_
    exact (h.isTrimmed s hs).trim_eq
  · intro name hname
    obtain ⟨s, hs, rfl⟩ := List.mem_map.mp hname
    exact h.pointless s hs

/-- The display of a normal path is read as the path. -/
lemma parse_display_of_normal (h : p.Normal) : parse p.display = .ok p := by
  obtain ⟨hneg, hunsigned⟩ := h.unsigned_display
  refine parse_eq_ok_iff.mpr ⟨?_, ?_⟩
  · rw [hunsigned, h.pieces_dottedChars]
    intro piece hpiece hnil
    obtain ⟨s, hs, hs'⟩ := List.mem_map.mp hpiece
    exact h.ne_empty s hs (String.toList_eq_nil_iff.mp (hs'.trans hnil))
  · rw [hunsigned, h.pieces_dottedChars, hneg, List.map_map]
    have hnames : p.segments.map (String.ofList ∘ String.toList) = p.segments := by
      simp [Function.comp_def]
    rw [hnames]

/-! ### Blank characters -/

/-- The second text is the first one with blank characters added around it, after its leading `!`
or around its points. -/
inductive Loosens (cs : List Char) : List Char → Prop
  | refl : Loosens cs cs
  | around {ds before behind : List Char} (hbefore : before.all Text.isBlankChar = true)
      (hbehind : behind.all Text.isBlankChar = true) (h : Loosens cs ds) :
      Loosens cs (before ++ ds ++ behind)
  | afterSign {front ws rest : List Char} (hfront : front.all Text.isBlankChar = true)
      (hws : ws.all Text.isBlankChar = true) (h : Loosens cs (front ++ '!' :: rest)) :
      Loosens cs (front ++ '!' :: (ws ++ rest))
  | aroundPoint {front rest before behind : List Char}
      (hbefore : before.all Text.isBlankChar = true) (hbehind : behind.all Text.isBlankChar = true)
      (h : Loosens cs (front ++ '.' :: rest)) :
      Loosens cs ((front ++ before) ++ '.' :: (behind ++ rest))

variable {raw' : String}

/-- What counts of a text is its sign and its pieces. -/
lemma parse_congr (h : parse raw = .ok p) (hsign : startsNegated raw' = startsNegated raw)
    (hpieces : pieces (unsigned raw') = pieces (unsigned raw)) : parse raw' = .ok p := by
  rw [parse_eq_ok_iff] at h ⊢
  rwa [hsign, hpieces]

/-- What counts of a text is left when it is trimmed. -/
lemma parse_of_trim_eq (h : parse raw = .ok p)
    (htrim : Text.trim raw'.toList = Text.trim raw.toList) : parse raw' = .ok p := by
  refine parse_congr h ?_ ?_
  · rw [startsNegated, startsNegated, ← Text.head?_trim, ← Text.head?_trim, htrim]
  · rw [unsigned, unsigned, htrim]

variable {front rest before behind : List Char}

/-- The first character that is not blank may be a sign. -/
lemma reads_sign (h : raw.toList = front ++ '!' :: rest)
    (hfront : front.all Text.isBlankChar = true) :
    startsNegated raw = true ∧ pieces (unsigned raw) = pieces rest := by
  have htrim : Text.trim raw.toList = '!' :: Text.trimEnd rest := by
    rw [h, Text.trim_append_cons (by decide), Text.trimStart_eq_nil_iff.mpr hfront]
    rfl
  rw [startsNegated, unsigned, ← Text.head?_trim, htrim]
  exact ⟨rfl, pieces_trimEnd rest⟩

/-- What follows the first character of a text has nothing to do with its sign. -/
lemma dropSign_append (h : cs ≠ []) (r : List Char) : dropSign (cs ++ r) = dropSign cs ++ r := by
  by_cases hsign : cs.head? = some '!'
  · obtain ⟨s, rfl⟩ := List.head?_eq_some_iff.mp hsign
    rfl
  · rw [dropSign_of_head?_ne hsign, dropSign_of_head?_ne]
    rwa [List.head?_append_of_ne_nil cs h]

/-- Pieces on both sides of a point are read apart from one another. -/
lemma reads_point (h : raw.toList = front ++ '.' :: rest)
    (hfront : Text.trimStart front ≠ []) :
    startsNegated raw = ((Text.trimStart front).head? == some '!') ∧
      pieces (unsigned raw) = pieces (dropSign (Text.trimStart front)) ++ pieces rest := by
  have htrim : Text.trim raw.toList = Text.trimStart front ++ '.' :: Text.trimEnd rest := by
    rw [h, Text.trim_append_cons (by decide)]
  rw [startsNegated, unsigned, ← Text.head?_trim, htrim, dropSign_append hfront,
    pieces_append_point, pieces_trimEnd, List.head?_append_of_ne_nil _ hfront]
  exact ⟨rfl, rfl⟩

/-- A text that is read has something in front of its first point. -/
lemma trimStart_ne_nil_of_parse (h : raw.toList = front ++ '.' :: rest)
    (hparse : parse raw = .ok p) : Text.trimStart front ≠ [] := by
  intro hnil
  have htrim : Text.trim raw.toList = '.' :: Text.trimEnd rest := by
    rw [h, Text.trim_append_cons (by decide), hnil]
    rfl
  have hpieces : pieces (unsigned raw) = pieces [] ++ pieces (Text.trimEnd rest) := by
    rw [unsigned, htrim]
    exact pieces_append_point [] _
  obtain ⟨hne, _⟩ := parse_eq_ok_iff.mp hparse
  refine hne [] ?_ rfl
  rw [hpieces]
  exact List.mem_append_left _ List.mem_cons_self

/-- Blank characters around a point do not matter. -/
lemma parse_of_aroundPoint (hparse : parse raw = .ok p) (h : raw.toList = front ++ '.' :: rest)
    (h' : raw'.toList = (front ++ before) ++ '.' :: (behind ++ rest))
    (hbefore : before.all Text.isBlankChar = true) (hbehind : behind.all Text.isBlankChar = true) :
    parse raw' = .ok p := by
  have hfront := trimStart_ne_nil_of_parse h hparse
  have hbefore_eq := Text.trimStart_append hfront before
  obtain ⟨hsign, hpieces⟩ := reads_point h hfront
  obtain ⟨hsign', hpieces'⟩ := reads_point h' (by simp [hbefore_eq, hfront])
  refine parse_congr hparse ?_ ?_
  · rw [hsign', hsign, hbefore_eq, List.head?_append_of_ne_nil _ hfront]
  · rw [hpieces', hpieces, hbefore_eq, dropSign_append hfront, pieces_append_blank hbefore,
      pieces_blank_append hbehind]

/-- Where blank characters do not matter they change no path that is read. -/
lemma parse_of_loosens (h : parse raw = .ok p) (hloose : Loosens raw.toList raw'.toList) :
    parse raw' = .ok p := by
  have key : ∀ ds, Loosens raw.toList ds → parse (String.ofList ds) = .ok p := by
    intro ds hds
    induction hds with
    | refl => rwa [String.ofList_toList]
    | around hbefore hbehind _ ih =>
        refine parse_of_trim_eq ih ?_
        rw [String.toList_ofList, String.toList_ofList, Text.trim_append_blank hbehind,
          Text.trim_blank_append hbefore]
    | afterSign hfront hws _ ih =>
        obtain ⟨hsign, hpieces⟩ := reads_sign String.toList_ofList hfront
        obtain ⟨hsign', hpieces'⟩ := reads_sign String.toList_ofList hfront
        refine parse_congr ih (hsign'.trans hsign.symm) ?_
        rw [hpieces', hpieces, pieces_blank_append hws]
    | aroundPoint hbefore hbehind _ ih =>
        exact parse_of_aroundPoint ih String.toList_ofList String.toList_ofList hbefore hbehind
  rw [← String.ofList_toList (s := raw')]
  exact key raw'.toList hloose

/-! ### Texts that are no paths -/

/-- Nothing may remain of a piece exactly if it is blank. -/
lemma exists_isEmpty_piece_iff :
    (pieces cs).any List.isEmpty = true ↔
      ∃ piece ∈ cs.splitOn '.', piece.all Text.isBlankChar = true := by
  simp [pieces, Text.trim_eq_nil_iff]

/-- A text has no names exactly if nothing but blank characters remains of it. -/
lemma parse_eq_empty_iff :
    parse raw = .error .empty ↔ (unsigned raw).all Text.isBlankChar = true := by
  rw [parse_eq]
  split
  · simp [*]
  · split <;> simp [*]

/-- A text has a blank name exactly if something remains of it, but not of all its pieces. -/
lemma parse_eq_emptySegment_iff {text : String} :
    parse raw = .error (.emptySegment text) ↔
      text = raw ∧ (unsigned raw).all Text.isBlankChar = false ∧
        ∃ piece ∈ (unsigned raw).splitOn '.', piece.all Text.isBlankChar = true := by
  rw [parse_eq, ← exists_isEmpty_piece_iff]
  split
  · simp [*]
  · split <;> simp [*, eq_comm]

/-- **Reading inverts displaying on exactly the normal paths**: the paths that texts are read as are
the normal ones, the display of a normal path is read as this path, so that whatever is read is read
again from its display, and blank characters around a text that is read, after its leading `!` or
around its points change nothing. A text is refused for one of two causes: it has no names exactly
if nothing but blank characters remains of it once it is trimmed and one leading `!` is taken away,
and it has a blank name exactly if something remains of it, but one of its pieces between points is
blank. -/
theorem parse_inverts_display :
    (∀ p : Path, (∃ raw, parse raw = .ok p) ↔ p.Normal) ∧
      (∀ p : Path, p.Normal → parse p.display = .ok p) ∧
      (∀ raw p, parse raw = .ok p → parse p.display = .ok p) ∧
      (∀ raw raw' p, parse raw = .ok p → Loosens raw.toList raw'.toList → parse raw' = .ok p) ∧
      (∀ raw, parse raw = .error .empty ↔ (unsigned raw).all Text.isBlankChar = true) ∧
      (∀ raw text, parse raw = .error (.emptySegment text) ↔
        text = raw ∧ (unsigned raw).all Text.isBlankChar = false ∧
          ∃ piece ∈ (unsigned raw).splitOn '.', piece.all Text.isBlankChar = true) ∧
      ∀ raw e, parse raw = .error e → e = .empty ∨ e = .emptySegment raw := by
  refine ⟨fun p => ⟨?_, fun h => ⟨p.display, parse_display_of_normal h⟩⟩,
    fun _ => parse_display_of_normal, fun _ _ h => parse_display_of_normal (normal_of_parse h),
    fun _ _ _ => parse_of_loosens, fun _ => parse_eq_empty_iff,
    fun _ _ => parse_eq_emptySegment_iff, fun raw e h => ?_⟩
  · rintro ⟨raw, h⟩
    exact normal_of_parse h
  · rw [parse_eq] at h
    split at h
    · cases h
      exact .inl rfl
    · split at h
      · cases h
        exact .inr rfl
      · cases h

end Path

end FieldRules
