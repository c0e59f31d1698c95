/-
ContainerMarkup/Proofs/Spelling.lean

Which characters the names and values of a tree are made of.  Every pass
rules out some:

* condensing keeps printable characters only (`condense_kept`);
* the lines of a text have no braces in them, apart from those that are
  braces (`mem_lines`), and a line taken as a header has no second opening
  bracket (`count_headersAfter`);
* the pieces of a line have no opening bracket behind the first character
  (`mem_groupsOf`);
* a pair has a name without separators and quotes, which is not blank, and a
  value without quotes, commas and closing brackets (`Group.read_spelled`).

A name may hold a closing bracket: the name of several pairs ends at the
first separator, wherever the brackets are.

Main result: every container of a compiled tree is well spelled, unless the
tree is the empty container (`compile_spelling`).
-/
import ContainerMarkup.Proofs.Line
import ContainerMarkup.Proofs.Provenance
import ContainerMarkup.Proofs.Retention
import Mathlib.Data.List.TakeWhile

namespace ContainerMarkup

open Source

/-! ### Well-spelled containers -/

/-- Whether a character may stand in a name. -/
def isNameChar (c : Char) : Bool :=
  isPrintable c && !isQuote c && !isSeparator c && c != '[' && !isBrace c

/-- Whether a character may stand in a value. -/
def isValueChar (c : Char) : Bool :=
  isPrintable c && !isQuote c && c != ',' && c != '[' && c != ']' && !isBrace c

/-- A string that is not blank and has the characters of a name only. -/
structure IsName (s : String) : Prop where
  not_blank : Text.isBlank s = false
  characters : ∀ c ∈ s.toList, isNameChar c

/-- A string that has the characters of a value only. -/
def IsValue (s : String) : Prop := ∀ c ∈ s.toList, isValueChar c

/-- A container whose names and values have the characters they may have, and
whose default is not empty if there is one. -/
structure Container.WellSpelled (c : Container) : Prop where
  name : IsName c.name
  names : ∀ e ∈ c.values.entries, IsName e.name
  values : ∀ e ∈ c.values.entries, IsValue e.value
  default : ∀ d ∈ c.default, d ≠ "" ∧ IsValue d
  hasDefault : c.hasDefault = c.default.isSome

namespace Source

/-! ### Lines -/

/-- A line is a brace, or it is a part of the text without braces. -/
theorem mem_linesFrom {body line : List Char} (hbody : ∀ c ∈ body, isBrace c = false)
    (t : List Char) (h : line ∈ linesFrom body [] t) :
    line = ['\x7b'] ∨ line = ['\x7d'] ∨ ∀ c ∈ line, c ∈ body ++ t ∧ isBrace c = false := by
  induction t generalizing body with
  | nil => cases h
  | cons c rest ih =>
    rcases hc : isBrace c with - | -
    · rw [linesFrom, if_neg (by simp [hc])] at h
      have hcons : ∀ d ∈ c :: body, isBrace d = false := List.forall_mem_cons.2 ⟨hc, hbody⟩
      rcases ih hcons h with hopen | hclose | hline
      · exact .inl hopen
      · exact .inr (.inl hclose)
      · refine .inr (.inr fun d hd => ⟨?_, (hline d hd).2⟩)
        have hmem := (hline d hd).1
        simp only [List.cons_append, List.mem_cons, List.mem_append] at hmem ⊢
        tauto
    · rw [linesFrom_brace hc, List.mem_append, List.mem_cons] at h
      rcases h with h | rfl | h
      · refine .inr (.inr fun d hd => ?_)
        have hmem := mem_of_mem_bodyLines h hd
        exact ⟨List.mem_append_left _ hmem, hbody d hmem⟩
      · rcases (by simpa [isBrace] using hc : c = '\x7b' ∨ c = '\x7d') with rfl | rfl
        · exact .inl rfl
        · exact .inr (.inl rfl)
      · rcases ih (by simp) h with hopen | hclose | hline
        · exact .inl hopen
        · exact .inr (.inl hclose)
        · refine .inr (.inr fun d hd => ⟨?_, (hline d hd).2⟩)
          have hmem : d ∈ rest := (hline d hd).1
          simp [hmem]

theorem mem_lines {t line : String} (h : line ∈ lines t) :
    line = opener ∨ line = closer ∨
      ∀ c ∈ line.toList, c ∈ t.toList ∧ isBrace c = false := by
  obtain ⟨chars, hchars, rfl⟩ := List.mem_map.1 h
  rw [String.toList_ofList]
  rcases mem_linesFrom (by simp) t.toList hchars with rfl | rfl | hline
  · exact .inl rfl
  · exact .inr (.inl rfl)
  · exact .inr (.inr hline)

/-! ### Headers -/

/-- Of a text without braces, the last line has at most one opening
bracket. -/
theorem count_getLast?_bodyLines {reversed line : List Char}
    (h : (bodyLines reversed).getLast? = some line) : line.count '[' ≤ 1 := by
  have hsplit := List.takeWhile_append_dropWhile (p := (· != '[')) (l := reversed)
  have hnone : (reversed.takeWhile (· != '[')).count '[' = 0 := by
    rw [List.count_eq_zero]
    intro hmem
    simpa using List.mem_takeWhile_imp hmem
  unfold bodyLines at h
  split at h
  · next bracket before hdrop =>
    rw [hdrop] at hsplit
    split at h
    · obtain rfl : bracket :: (reversed.takeWhile (· != '[')).reverse = line := by simpa using h
      rw [List.count_cons, List.count_reverse, hnone]
      split <;> decide
    · next hbefore =>
      obtain rfl : reversed.reverse = line := by simpa using h
      have hzero : before.count '[' = 0 := by simpa [List.count_eq_zero] using hbefore
      rw [List.count_reverse, ← hsplit, List.count_append, List.count_cons, hnone, hzero]
      split <;> decide
  · next hdrop =>
    rw [hdrop, List.append_nil] at hsplit
    split at h
    · cases h
    · obtain rfl : reversed.reverse = line := by simpa using h
      rw [List.count_reverse, ← hsplit, hnone]
      decide

end Source

/-- Lines that are no opening lines have no header among them. -/
theorem headersAfter_append {xs : List String} (h : ∀ x ∈ xs, x ≠ opener)
    (previous : Option String) (rest : List String) :
    headersAfter previous (xs ++ rest) = headersAfter (xs.getLast?.or previous) rest := by
  induction xs generalizing previous with
  | nil => rfl
  | cons x xs ih =>
    obtain ⟨hx, hxs⟩ := List.forall_mem_cons.1 h
    have hlast : (x :: xs).getLast?.or previous = xs.getLast?.or (some x) := by
      rw [List.getLast?_cons]
      rcases xs.getLast? with - | y <;> rfl
    rw [List.cons_append, headersAfter, if_neg hx, List.nil_append, ih hxs, hlast]

theorem count_headersAfter_linesFrom {body : List Char} (hbody : ∀ c ∈ body, isBrace c = false)
    {previous : Option String} (hprevious : ∀ line ∈ previous, line.toList.count '[' ≤ 1)
    (t : List Char) :
    ∀ header ∈ headersAfter previous ((linesFrom body [] t).map String.ofList),
      header.toList.count '[' ≤ 1 := by
  induction t generalizing body previous with
  | nil => simp [linesFrom, headersAfter]
  | cons c rest ih =>
    rcases hc : isBrace c with - | -
    · rw [linesFrom, if_neg (by simp [hc])]
      exact ih (List.forall_mem_cons.2 ⟨hc, hbody⟩) hprevious
    · have hlines : ∀ line ∈ (bodyLines body).map String.ofList, line ≠ opener := by
        intro line hline
        obtain ⟨chars, hchars, rfl⟩ := List.mem_map.1 hline
        exact (ne_brace_of_body fun d hd => hbody d (mem_of_mem_bodyLines hchars hd)).1
      -- the header is the last line before the brace, or the one before them all
      have hlast : ∀ line ∈ ((bodyLines body).map String.ofList).getLast?.or previous,
          line.toList.count '[' ≤ 1 := by
        intro line hline
        rw [List.getLast?_map] at hline
        rcases Option.or_eq_some_iff.1 hline with hsome | ⟨-, hsome⟩
        · obtain ⟨chars, hchars, rfl⟩ := Option.map_eq_some_iff.1 hsome
          rw [String.toList_ofList]
          exact count_getLast?_bodyLines hchars
        · exact hprevious line hsome
      have hbrace : ∀ line ∈ some (String.ofList [c]), line.toList.count '[' ≤ 1 := by
        intro line hline
        obtain rfl := Option.some.inj hline
        rw [String.toList_ofList]
        exact List.count_le_length
      rw [linesFrom_brace hc, List.map_append, List.map_cons, headersAfter_append hlines,
        headersAfter, List.forall_mem_append]
      refine ⟨?_, ih (by simp) hbrace⟩
      split
      · intro header hheader
        exact hlast header (Option.mem_toList.1 hheader)
      · simp

/-- A line taken as a header has at most one opening bracket. -/
theorem count_headersAfter (t : String) :
    ∀ header ∈ headersAfter none (lines t), header.toList.count '[' ≤ 1 :=
  count_headersAfter_linesFrom (by simp) (by simp) t.toList

/-- A header is a line. -/
theorem mem_of_mem_headersAfter {previous : Option String} {lines : List String} {header : String}
    (h : header ∈ headersAfter previous lines) : header ∈ previous ∨ header ∈ lines := by
  induction lines generalizing previous with
  | nil => cases h
  | cons line rest ih =>
    rw [headersAfter, List.mem_append] at h
    rcases h with h | h
    · split at h
      · exact .inl (Option.mem_toList.1 h)
      · cases h
    · rcases ih h with hline | hrest
      · obtain rfl := Option.some.inj hline
        exact .inr List.mem_cons_self
      · exact .inr (List.mem_cons_of_mem line hrest)

/-! ### Groups of a line -/

theorem mem_bodyGroups {lines : List String} {piece : String} (h : piece ∈ bodyGroups lines) :
    ∃ line ∈ lines, line ≠ opener ∧ line ≠ closer ∧ piece ∈ Assembly.groupsOf line := by
  induction lines with
  | nil => cases h
  | cons line rest ih =>
    rw [bodyGroups, List.mem_append] at h
    rcases h with h | h
    · split at h
      · next hbody => exact ⟨line, List.mem_cons_self, hbody.1, hbody.2.1, h⟩
      · cases h
    · obtain ⟨other, hother, hgroup⟩ := ih h
      exact ⟨other, List.mem_cons_of_mem line hother, hgroup⟩

/-- A group of a line is a bracket and then characters of the line that are
no opening brackets. -/
theorem mem_groupsOf {line piece : String} (h : piece ∈ Assembly.groupsOf line) :
    ∃ rest, piece.toList = '[' :: rest ∧ ∀ c ∈ rest, c ∈ line.toList ∧ c ≠ '[' := by
  obtain ⟨rest, hrest, rfl⟩ := List.mem_map.1 h
  refine ⟨rest, String.toList_ofList, fun c hc => ?_⟩
  exact mem_of_mem_cut (List.mem_filter.1 hrest).1 hc

/-! ### Pairs -/

/-- A pair with a name that is not blank, made of characters of a text. -/
structure Source.Attribute.SpelledFrom (t : List Char) (a : Attribute) : Prop where
  not_blank : Text.isBlank a.name = false
  name : ∀ c ∈ a.name.toList, c ∈ t ∧ isSeparator c = false ∧ isQuote c = false
  value : ∀ c ∈ a.value.toList, c ∈ t ∧ endsValue c = false ∧ isQuote c = false

theorem Source.Attribute.SpelledFrom.mono {t u : List Char} {a : Attribute}
    (h : a.SpelledFrom t) (hsub : ∀ c ∈ t, c ∈ u) : a.SpelledFrom u :=
  ⟨h.not_blank, fun c hc => ⟨hsub c (h.name c hc).1, (h.name c hc).2⟩,
    fun c hc => ⟨hsub c (h.value c hc).1, (h.value c hc).2⟩⟩

theorem mem_unquote {c : Char} {t : List Char} :
    c ∈ unquote t ↔ c ∈ t ∧ isQuote c = false := by
  simp [unquote]

theorem readPair_spelled {header : Bool} {t : List Char} {a : Attribute}
    (h : readPair header t = .ok a) : a.SpelledFrom t := by
  obtain ⟨hname, hvalue, hquote, hblank, -⟩ := readPair_eq_ok_iff.1 h
  rw [List.any_eq_false] at hquote
  refine ⟨hblank, fun c hc => ?_, fun c hc => ?_⟩
  · have hunquoted := Bool.eq_false_iff.2 (hquote c hc)
    rw [hname] at hc
    have hends := List.mem_takeWhile_imp hc
    rw [Bool.not_eq_true', endsName, Bool.or_eq_false_iff, Bool.or_eq_false_iff] at hends
    exact ⟨(List.takeWhile_sublist _).subset hc, hends.1.1, hunquoted⟩
  · rw [hvalue, mem_unquote] at hc
    have hrest := List.mem_of_mem_drop ((List.takeWhile_sublist _).subset hc.1)
    refine ⟨(List.dropWhile_sublist _).subset hrest, ?_, hc.2⟩
    simpa using List.mem_takeWhile_imp hc.1

theorem readSegment_spelled {t : List Char} {a : Attribute} (h : readSegment t = .ok a) :
    a.SpelledFrom t := by
  unfold readSegment at h
  split at h
  · exact readPair_spelled h
  · cases h

/-- Segments give the lead its value and every other pair. -/
theorem readSegments_spelled {name : String} {segments : List (List Char)} {g : Group}
    (h : readSegments name segments = .ok g) :
    g.lead.name = name ∧
      (∀ c ∈ g.lead.value.toList, isQuote c = false ∧ ∃ segment ∈ segments, c ∈ segment) ∧
      ∀ a ∈ g.others, ∃ segment ∈ segments, a.SpelledFrom segment := by
  have hpairs : ∀ {ts : List (List Char)} {pairs : List Attribute},
      ts.mapM readSegment = .ok pairs → ∀ a ∈ pairs, ∃ segment ∈ ts, a.SpelledFrom segment := by
    intro ts pairs hread a ha
    obtain ⟨segment, hsegment, hok⟩ := (mem_of_mapM_eq_ok hread).2 a ha
    exact ⟨segment, hsegment, readSegment_spelled hok⟩
  rcases segments with - | ⟨first, rest⟩
  · cases h
    simp
  · rw [readSegments] at h
    split at h
    · obtain ⟨pairs, hread, h⟩ := bind_eq_ok_iff.1 h
      cases h
      exact ⟨rfl, by simp, hpairs hread⟩
    · obtain ⟨pairs, hread, h⟩ := bind_eq_ok_iff.1 h
      cases h
      refine ⟨rfl, fun c hc => ?_, fun a ha => ?_⟩
      · rw [String.toList_ofList, mem_unquote] at hc
        exact ⟨hc.2, first, List.mem_cons_self, hc.1⟩
      · obtain ⟨segment, hsegment, hspelled⟩ := hpairs hread a ha
        exact ⟨segment, List.mem_cons_of_mem first hsegment, hspelled⟩

theorem readMany_spelled {t : List Char} {g : Group} (h : readMany t = .ok g) :
    ∀ a ∈ g.pairs, a.SpelledFrom t := by
  obtain ⟨hblank, hquote, hsegments⟩ := readMany_eq_ok_iff.1 h
  obtain ⟨hname, hvalue, hothers⟩ := readSegments_spelled hsegments
  -- a segment lies before the closing bracket and between commas
  have hsegment : ∀ segment ∈ Text.cut ','
      (((t.dropWhile fun c => !isSeparator c).drop 1).takeWhile (· != ']')),
      ∀ c ∈ segment, c ∈ t ∧ endsValue c = false := by
    intro segment hmem c hc
    obtain ⟨hbody, hcomma⟩ := mem_of_mem_cut hmem hc
    have hbracket : c ≠ ']' := by simpa using List.mem_takeWhile_imp hbody
    have hrest := List.mem_of_mem_drop ((List.takeWhile_sublist _).subset hbody)
    exact ⟨(List.dropWhile_sublist _).subset hrest, by simp [endsValue, hcomma, hbracket]⟩
  rw [Group.pairs, List.forall_mem_cons]
  refine ⟨⟨?_, fun c hc => ?_, fun c hc => ?_⟩, fun a ha => ?_⟩
  · rw [hname, Text.isBlank, String.toList_ofList]
    exact hblank
  · rw [hname, String.toList_ofList] at hc
    rw [List.any_eq_false] at hquote
    exact ⟨(List.takeWhile_sublist _).subset hc, by simpa using List.mem_takeWhile_imp hc,
      Bool.eq_false_iff.2 (hquote c hc)⟩
  · obtain ⟨hunquoted, segment, hmem, hc⟩ := hvalue c hc
    exact ⟨(hsegment segment hmem c hc).1, (hsegment segment hmem c hc).2, hunquoted⟩
  · obtain ⟨segment, hmem, hspelled⟩ := hothers a ha
    exact hspelled.mono fun c hc => (hsegment segment hmem c hc).1

/-- The pairs of a group are made of the characters behind its bracket. -/
theorem Source.Group.read_spelled {header : Bool} {text : String} {g : Group}
    (h : Group.read header text = .ok g) :
    ∃ rest, text.toList = '[' :: rest ∧ ∀ a ∈ g.pairs, a.SpelledFrom rest := by
  obtain ⟨rest, hrest, ⟨-, hmany⟩ | ⟨-, a, hpair, rfl⟩⟩ := read_eq_ok_iff.1 h
  · exact ⟨rest, hrest, readMany_spelled hmany⟩
  · refine ⟨rest, hrest, fun b hb => ?_⟩
    obtain rfl : b = a := by simpa [Group.pairs] using hb
    exact readPair_spelled hpair

/-! ### Pairs of a text -/

/-- A pair with a well-spelled name and value. -/
structure Source.Attribute.WellSpelled (a : Attribute) : Prop where
  name : IsName a.name
  value : IsValue a.value

theorem Source.Attribute.SpelledFrom.wellSpelled {t : List Char} {a : Attribute}
    (h : a.SpelledFrom t)
    (ht : ∀ c ∈ t, isPrintable c ∧ isBrace c = false ∧ c ≠ '[') : a.WellSpelled := by
  refine ⟨⟨h.not_blank, fun c hc => ?_⟩, fun c hc => ?_⟩
  · obtain ⟨hmem, hsep, hquote⟩ := h.name c hc
    obtain ⟨hprintable, hbrace, hbracket⟩ := ht c hmem
    simp [isNameChar, hprintable, hquote, hsep, hbracket, hbrace]
  · obtain ⟨hmem, hends, hquote⟩ := h.value c hc
    obtain ⟨hprintable, hbrace, hbracket⟩ := ht c hmem
    have hends' : c ≠ ',' ∧ c ≠ ']' := by simpa [endsValue] using hends
    simp [isValueChar, hprintable, hquote, hends'.1, hbracket, hends'.2, hbrace]

theorem mem_sourceLines {text line : String} (h : line ∈ sourceLines text) :
    line = opener ∨ line = closer ∨ ∀ c ∈ line.toList, isPrintable c ∧ isBrace c = false := by
  rw [sourceLines] at h
  rcases mem_lines h with hopen | hclose | hline
  · exact .inl hopen
  · exact .inr (.inl hclose)
  · refine .inr (.inr fun c hc => ?_)
    exact ⟨((condense_kept text).2 c (hline c hc).1).1, (hline c hc).2⟩

theorem header_wellSpelled {text header : String} {g : Group}
    (hheader : header ∈ headersAfter none (sourceLines text))
    (hread : Group.read true header = .ok g) : ∀ a ∈ g.pairs, a.WellSpelled := by
  obtain ⟨rest, hrest, hspelled⟩ := Group.read_spelled hread
  have hcount : header.toList.count '[' ≤ 1 := by
    rw [sourceLines] at hheader
    exact count_headersAfter _ header hheader
  have hline : header ∈ sourceLines text := by simpa using mem_of_mem_headersAfter hheader
  intro a ha
  refine (hspelled a ha).wellSpelled fun c hc => ?_
  -- the one opening bracket of the header is the first character
  have hbracket : c ≠ '[' := by
    rintro rfl
    rw [hrest, List.count_cons_self] at hcount
    exact List.count_eq_zero.1 (by omega) hc
  rcases mem_sourceLines hline with rfl | rfl | hchars
  · simp [opener] at hrest
  · simp [closer] at hrest
  · have hmem := hchars c (by simp [hrest, hc])
    exact ⟨hmem.1, hmem.2, hbracket⟩

theorem piece_wellSpelled {text piece : String} {header : Bool} {g : Group}
    (hpiece : piece ∈ bodyGroups (sourceLines text))
    (hread : Group.read header piece = .ok g) : ∀ a ∈ g.pairs, a.WellSpelled := by
  obtain ⟨rest, hrest, hspelled⟩ := Group.read_spelled hread
  obtain ⟨line, hline, hopen, hclose, hgroup⟩ := mem_bodyGroups hpiece
  obtain ⟨rest', hrest', hchars⟩ := mem_groupsOf hgroup
  obtain rfl : rest = rest' := (List.cons.inj (hrest.symm.trans hrest')).2
  intro a ha
  refine (hspelled a ha).wellSpelled fun c hc => ?_
  rcases mem_sourceLines hline with rfl | rfl | hmem
  · exact absurd rfl hopen
  · exact absurd rfl hclose
  · obtain ⟨hprintable, hbrace⟩ := hmem c (hchars c hc).1
    exact ⟨hprintable, hbrace, (hchars c hc).2⟩

/-! ### Trees -/

theorem Container.GivenBy.wellSpelled {c : Container} {text : String}
    (h : c.GivenBy (sourceActions text)) : c.WellSpelled := by
  obtain ⟨g, own, hg, hown, hname, hdefault, hperm⟩ := h
  have hpairs : ∀ a ∈ g.pairs, a.WellSpelled := by
    rcases read_of_enter_mem hg with ⟨header, hheader, hread⟩ | ⟨piece, hpiece, hread⟩
    · exact header_wellSpelled hheader hread
    · exact piece_wellSpelled hpiece hread
  have hlead : g.lead.WellSpelled := hpairs _ List.mem_cons_self
  have hentries : ∀ e ∈ c.values.entries, IsName e.name ∧ IsValue e.value := by
    intro e he
    obtain ⟨a, ha, rfl⟩ := List.mem_map.1 (hperm.mem_iff.1 he)
    rcases List.mem_append.1 ha with ha | ha
    · have ha' := hpairs a (List.mem_cons_of_mem _ ha)
      exact ⟨ha'.name, ha'.value⟩
    · obtain ⟨piece, hpiece, hread⟩ := read_of_value_mem (hown a ha)
      have ha' := piece_wellSpelled hpiece hread a List.mem_cons_self
      exact ⟨ha'.name, ha'.value⟩
  have hvalue : ∀ d ∈ c.default, d ≠ "" ∧ IsValue d := by
    rw [hdefault, Group.default?]
    split
    · simp
    · next hne =>
      rintro d hd
      obtain rfl := Option.some.inj hd
      exact ⟨by simpa using hne, hlead.value⟩
  refine ⟨hname ▸ hlead.name, fun e he => (hentries e he).1, fun e he => (hentries e he).2,
    hvalue, ?_⟩
  rcases hc : c.default with - | d
  · simp [Container.hasDefault, hc]
  · simp [Container.hasDefault, hc, (hvalue d hc).1]

/-- **Spelling.**  If a text compiles, the tree is the empty container, or
every container has a name and names of values that are not blank and have
the characters of names only, and values and a default that have the
characters of values only; and it has a default that is not empty, or
none. -/
theorem compile_spelling {options : Options} {text : String} {root : Container}
    (h : (compile options text).result = .ok root) :
    root = Container.empty ∨ ∀ q ∈ root.preorder 0, q.2.WellSpelled := by
  rcases compile_givenBy h with hempty | hgiven
  · exact .inl hempty
  · exact .inr fun q hq => (hgiven q hq).wellSpelled

/-- A name with a closing bracket, a value with separators, a default made of
a space, and the text behind a bracket as a default. -/
theorem compile_spelling_bracket :
    let text := "[A]b:\" \",c=1=2]\x7b[K='v' w][L]x\x7b\x7d\x7d"
    let child : Container := ⟨"L", some "x", Values.empty, []⟩
    let root : Container := ⟨"A]b", some " ",
      (Values.empty.store ⟨"c", "1=2"⟩).store ⟨"K", "vw"⟩, [child]⟩
    (compile {} text).result = .ok root ∧ root.WellSpelled ∧ child.WellSpelled := by
  intro text child root
  have hroot : (compile {} text).result = .ok root := by decide +kernel
  have hall := (compile_spelling hroot).resolve_left (by decide +kernel)
  exact ⟨hroot, hall (0, root) (by simp [Container.preorder_eq]),
    hall (1, child) (by simp [root, Container.preorder_eq, Container.preorderAll])⟩

end ContainerMarkup
