/-
ContainerMarkup/Proofs/Provenance.lean

Where the values of a tree come from, and which of them can be blank.

A value comes from the further pairs of a header, from the further pairs of a
group of several, or from a group of one pair in a body.  The first two are
never blank (`Group.read_others`).  The third is not blank either, except in
one case: the separators that decide how a group is read are counted to its
end, and not to its closing bracket, so in

    [K=]=x

a single pair is read as if it were several, and its value as the value of a
name, which may be blank.  `Miscounted` is that case.

Main result: a value of a compiled tree is neither blank nor missing, or it
was given by a miscounted group (`compile_values`).
-/
import ContainerMarkup.Proofs.Cutting
import ContainerMarkup.Proofs.Document
import ContainerMarkup.Tree.Parameter
import Mathlib.Control.Monad.Basic

namespace ContainerMarkup

open Source

/-! ### Pairs -/

/-- When a text reads as a pair, and as which. -/
theorem readPair_eq_ok_iff {header : Bool} {t : List Char} {a : Attribute} :
    readPair header t = .ok a ↔
      (a.name.toList = t.takeWhile fun c => !endsName c) ∧
      (a.value.toList = unquote (((t.dropWhile fun c => !endsName c).drop 1).takeWhile
        fun c => !endsValue c)) ∧
      a.name.toList.any isQuote = false ∧ Text.isBlank a.name = false ∧
      (header = false → Text.isBlank a.value = false) := by
  obtain ⟨name, value⟩ := a
  simp only [readPair, Text.isBlank]
  constructor
  · intro h
    split at h
    · cases h
    · next hquote =>
      split at h
      · cases h
      · next hname =>
        split at h
        · cases h
        · next hvalue =>
          cases h
          simp only [String.toList_ofList]
          refine ⟨trivial, trivial, by simpa using hquote, by simpa using hname, ?_⟩
          rintro rfl
          simpa using hvalue
  · rintro ⟨hname, hvalue, hquote, hblank, hheader⟩
    have hvalue' : (!header && Text.allBlank value.toList) = false := by
      cases header with
      | true => rfl
      | false => simpa using hheader rfl
    rw [← hname, ← hvalue, hquote, hblank, hvalue', String.ofList_toList, String.ofList_toList]
    rfl

/-- Only in a header may a pair have a blank value. -/
theorem readPair_value {t : List Char} {a : Attribute} (h : readPair false t = .ok a) :
    Text.isBlank a.value = false :=
  (readPair_eq_ok_iff.1 h).2.2.2.2 rfl

theorem readSegment_value {t : List Char} {a : Attribute} (h : readSegment t = .ok a) :
    Text.isBlank a.value = false := by
  unfold readSegment at h
  split at h
  · exact readPair_value h
  · cases h

/-- What is read from a list comes from its members, one from each. -/
theorem mem_of_mapM_eq_ok {ε α β : Type} {f : α → Except ε β} {xs : List α} {ys : List β}
    (h : xs.mapM f = .ok ys) : ys.length = xs.length ∧ ∀ y ∈ ys, ∃ x ∈ xs, f x = .ok y := by
  induction xs generalizing ys with
  | nil =>
    cases h
    simp
  | cons x xs ih =>
    rw [List.mapM_cons, bind_eq_ok_iff] at h
    obtain ⟨y, hy, h⟩ := h
    obtain ⟨rest, hrest, h⟩ := bind_eq_ok_iff.1 h
    cases h
    obtain ⟨hlength, hmem⟩ := ih hrest
    rw [List.forall_mem_cons]
    refine ⟨congrArg (· + 1) hlength, ⟨x, List.mem_cons_self, hy⟩, fun z hz => ?_⟩
    obtain ⟨w, hw, heq⟩ := hmem z hz
    exact ⟨w, List.mem_cons_of_mem x hw, heq⟩

/-! ### Groups -/

theorem readSegments_others {name : String} {segments : List (List Char)} {g : Group}
    (h : readSegments name segments = .ok g) : ∀ a ∈ g.others, Text.isBlank a.value = false := by
  rcases segments with - | ⟨first, rest⟩
  · cases h
    simp
  · rw [readSegments] at h
    split at h
    all_goals
      obtain ⟨pairs, hpairs, h⟩ := bind_eq_ok_iff.1 h
      cases h
      intro a ha
      obtain ⟨segment, -, hsegment⟩ := (mem_of_mapM_eq_ok hpairs).2 a ha
      exact readSegment_value hsegment

/-- Segments that give no further pair hold no separator. -/
theorem readSegments_lead {name : String} {segments : List (List Char)} {a : Attribute}
    (h : readSegments name segments = .ok ⟨a, []⟩) :
    ∀ segment ∈ segments, segment.any isSeparator = false := by
  rcases segments with - | ⟨first, rest⟩
  · simp
  · rw [readSegments] at h
    split at h
    · obtain ⟨pairs, hpairs, h⟩ := bind_eq_ok_iff.1 h
      cases h
      cases (mem_of_mapM_eq_ok hpairs).1
    · next hfirst =>
      obtain ⟨pairs, hpairs, h⟩ := bind_eq_ok_iff.1 h
      cases h
      obtain rfl : rest = [] := List.eq_nil_of_length_eq_zero (mem_of_mapM_eq_ok hpairs).1.symm
      simpa using hfirst

/-- A text whose pieces between commas hold no separator holds none. -/
theorem any_isSeparator_of_cut {t : List Char}
    (h : ∀ piece ∈ Text.cut ',' t, piece.any isSeparator = false) :
    t.any isSeparator = false := by
  have hflat := flatten_cutFrom ',' [] [] t
  rw [List.any_eq_false]
  intro c hc hsep
  have hcomma : c ≠ ',' := by
    rintro rfl
    cases hsep
  have hmem : c ∈ (Text.cut ',' t).flatten := by
    rw [Text.cut, hflat]
    simp [hc, hcomma]
  obtain ⟨piece, hpiece, hmem⟩ := List.mem_flatten.1 hmem
  exact List.any_eq_false.1 (h piece hpiece) c hmem hsep

/-- A text with no separator behind the first one, up to some character, has
at most one up to there. -/
theorem countP_takeWhile_lt {p : Char → Bool} {t : List Char}
    (h : ((((t.dropWhile fun c => !isSeparator c).drop 1).takeWhile p).any isSeparator) = false) :
    (t.takeWhile p).countP isSeparator < 2 := by
  induction t with
  | nil => simp
  | cons c t ih =>
    rw [List.takeWhile_cons]
    split
    · rcases hc : isSeparator c with - | -
      · rw [List.countP_cons_of_neg (by simp [hc])]
        apply ih
        simpa [hc] using h
      · have hzero : (t.takeWhile p).countP isSeparator = 0 := by
          simpa [hc, List.countP_eq_zero] using h
        rw [List.countP_cons_of_pos hc, hzero]
        decide
    · simp

/-- What is read as several pairs has a name up to the first separator, and
segments from there to the closing bracket. -/
theorem readMany_eq_ok_iff {t : List Char} {g : Group} :
    readMany t = .ok g ↔
      Text.allBlank (t.takeWhile fun c => !isSeparator c) = false ∧
      (t.takeWhile fun c => !isSeparator c).any isQuote = false ∧
      readSegments (String.ofList (t.takeWhile fun c => !isSeparator c)) (Text.cut ','
        (((t.dropWhile fun c => !isSeparator c).drop 1).takeWhile (· != ']'))) = .ok g := by
  simp only [readMany]
  constructor
  · intro h
    split at h
    · cases h
    · next hblank =>
      split at h
      · cases h
      · next hquote => exact ⟨by simpa using hblank, by simpa using hquote, h⟩
  · rintro ⟨hblank, hquote, h⟩
    rw [hblank, hquote]
    exact h

/-- At least two separators in a group, but at most one before its closing
bracket. -/
def Miscounted (group : String) : Prop :=
  (group.toList.takeWhile (· != ']')).countP isSeparator < 2 ∧
    2 ≤ group.toList.countP isSeparator

instance (group : String) : Decidable (Miscounted group) :=
  inferInstanceAs (Decidable (_ ∧ _))

/-- What can be read as a group: a bracket, and then several pairs if there
are at least two separators, and one pair otherwise. -/
theorem read_eq_ok_iff {header : Bool} {group : String} {g : Group} :
    Group.read header group = .ok g ↔
      ∃ rest, group.toList = '[' :: rest ∧
        ((2 ≤ rest.countP isSeparator ∧ readMany rest = .ok g) ∨
          (rest.countP isSeparator < 2 ∧ ∃ a, readPair header rest = .ok a ∧ g = ⟨a, []⟩)) := by
  rw [Group.read, mapError_eq_ok_iff]
  constructor
  · intro h
    unfold readGroup at h
    split at h
    · next rest heq =>
      refine ⟨rest, heq, ?_⟩
      split at h
      · next hcount => exact .inl ⟨hcount, h⟩
      · next hcount =>
        obtain ⟨a, hpair, hg⟩ := map_eq_ok_iff.1 h
        exact .inr ⟨Nat.lt_of_not_le hcount, a, hpair, hg.symm⟩
    · cases h
  · rintro ⟨rest, heq, ⟨hcount, hmany⟩ | ⟨hcount, a, hpair, rfl⟩⟩
    · rw [heq, readGroup, if_pos hcount, hmany]
    · rw [heq, readGroup, if_neg (Nat.not_le_of_lt hcount), hpair]
      rfl

/-- No pair of a group but the lead is blank. -/
theorem Source.Group.read_others {header : Bool} {group : String} {g : Group}
    (h : Group.read header group = .ok g) : ∀ a ∈ g.others, Text.isBlank a.value = false := by
  obtain ⟨rest, -, ⟨-, hmany⟩ | ⟨-, a, -, rfl⟩⟩ := read_eq_ok_iff.1 h
  · obtain ⟨-, -, hsegments⟩ := readMany_eq_ok_iff.1 hmany
    exact readSegments_others hsegments
  · simp

/-- The only pair of a group in a body is not blank, unless the group is
miscounted. -/
theorem Source.Group.read_lead {group : String} {a : Attribute}
    (h : Group.read false group = .ok ⟨a, []⟩) :
    Text.isBlank a.value = false ∨ Miscounted group := by
  obtain ⟨rest, hrest, ⟨hcount, hmany⟩ | ⟨-, b, hpair, heq⟩⟩ := read_eq_ok_iff.1 h
  · -- without a further pair, there is no separator between the first one and the bracket
    right
    obtain ⟨-, -, hsegments⟩ := readMany_eq_ok_iff.1 hmany
    have hlead := any_isSeparator_of_cut (readSegments_lead hsegments)
    rw [Miscounted, hrest, List.takeWhile_cons_of_pos (by decide),
      List.countP_cons_of_neg (by decide), List.countP_cons_of_neg (by decide)]
    exact ⟨countP_takeWhile_lt hlead, hcount⟩
  · left
    cases heq
    exact readPair_value hpair

/-! ### Actions -/

/-- What a line asks for comes from a header or from its groups. -/
theorem mem_lineActions {action : Action} {previous next : Option String} {line : String}
    (h : action ∈ lineActions previous line next) :
    action = .leave ∨
      (line = opener ∧ ∃ text ∈ previous.toList, ∃ g,
        Group.read true text = .ok g ∧ action = .enter g) ∨
      (IsBody line next ∧ ∃ piece ∈ Assembly.groupsOf line, action ∈ pieceActions piece) := by
  unfold lineActions at h
  split at h
  · next hopen =>
    unfold headerActions at h
    split at h
    · next g heq =>
      obtain ⟨text, rfl, hg⟩ := Option.map_eq_some_iff.1 heq
      exact .inr (.inl ⟨hopen, text, by simp, g, hg, List.mem_singleton.1 h⟩)
    · cases h
  · split at h
    · exact .inl (List.mem_singleton.1 h)
    · split at h
      · next hbody => exact .inr (.inr ⟨hbody, List.mem_flatMap.1 h⟩)
      · cases h

theorem mem_actionsAfter {action : Action} {previous : Option String} {lines : List String}
    (h : action ∈ actionsAfter previous lines) :
    action = .leave ∨
      (∃ text ∈ headersAfter previous lines, ∃ g,
        Group.read true text = .ok g ∧ action = .enter g) ∨
      ∃ piece ∈ bodyGroups lines, action ∈ pieceActions piece := by
  induction lines generalizing previous with
  | nil => cases h
  | cons line rest ih =>
    rw [actionsAfter, List.mem_append] at h
    rw [bodyGroups, headersAfter]
    rcases h with h | h
    · rcases mem_lineActions h with hleave | ⟨hopen, text, htext, hread⟩ |
        ⟨hbody, piece, hpiece, hmem⟩
      · exact .inl hleave
      · rw [if_pos hopen]
        exact .inr (.inl ⟨text, List.mem_append_left _ htext, hread⟩)
      · rw [if_pos hbody]
        exact .inr (.inr ⟨piece, List.mem_append_left _ hpiece, hmem⟩)
    · rcases ih h with hleave | ⟨text, htext, hread⟩ | ⟨piece, hpiece, hmem⟩
      · exact .inl hleave
      · exact .inr (.inl ⟨text, List.mem_append_right _ htext, hread⟩)
      · exact .inr (.inr ⟨piece, List.mem_append_right _ hpiece, hmem⟩)

/-- A group that asks for something can be read. -/
theorem mem_pieceActions {action : Action} {piece : String} (h : action ∈ pieceActions piece) :
    ∃ g, Group.read false piece = .ok g ∧ action ∈ g.actions := by
  unfold pieceActions at h
  split at h
  · next g hg => exact ⟨g, hg, h⟩
  · cases h

/-- Containers are opened under headers and groups that can be read. -/
theorem read_of_enter_mem {g : Group} {previous : Option String} {lines : List String}
    (h : .enter g ∈ actionsAfter previous lines) :
    (∃ text ∈ headersAfter previous lines, Group.read true text = .ok g) ∨
      ∃ piece ∈ bodyGroups lines, Group.read false piece = .ok g := by
  rcases mem_actionsAfter h with hleave | ⟨text, htext, g', hg, henter⟩ | ⟨piece, hpiece, hmem⟩
  · cases hleave
  · cases henter
    exact .inl ⟨text, htext, hg⟩
  · obtain ⟨g', hg, hmem⟩ := mem_pieceActions hmem
    unfold Group.actions at hmem
    split at hmem
    · simp at hmem
    · obtain rfl : g = g' := by simpa using hmem
      exact .inr ⟨piece, hpiece, hg⟩

/-- Values are given by the groups of one pair in bodies. -/
theorem read_of_value_mem {a : Attribute} {previous : Option String} {lines : List String}
    (h : .value a ∈ actionsAfter previous lines) :
    ∃ piece ∈ bodyGroups lines, Group.read false piece = .ok ⟨a, []⟩ := by
  rcases mem_actionsAfter h with hleave | ⟨text, -, g', -, henter⟩ | ⟨piece, hpiece, hmem⟩
  · cases hleave
  · cases henter
  · obtain ⟨⟨lead, others⟩, hg, hmem⟩ := mem_pieceActions hmem
    refine ⟨piece, hpiece, ?_⟩
    cases others with
    | nil =>
      obtain rfl : a = lead := by simpa [Group.actions] using hmem
      exact hg
    | cons other others => simp [Group.actions] at hmem

/-! ### Values -/

theorem Container.requireValue_of_mem {c : Container} {e : Entry} (h : e ∈ c.values.entries)
    (hvalue : Text.isBlank e.value = false) : c.requireValue e.name = .ok e.value := by
  have hget : c.values.get? e.name = some e.value := by
    rw [Values.get?, Values.find?_of_mem h, Option.map_some]
  simp [Container.requireValue, hget, hvalue]

/-- A container that is given by lines has no blank value, except for those
given by miscounted groups. -/
theorem Container.GivenBy.value {c : Container} {lines : List String}
    (h : c.GivenBy (actions lines)) {e : Entry} (he : e ∈ c.values.entries) :
    Text.isBlank e.value = false ∨
      ∃ piece ∈ bodyGroups lines, Miscounted piece ∧
        Group.read false piece = .ok ⟨⟨e.name, e.value⟩, []⟩ := by
  obtain ⟨g, own, hg, hown, -, -, hperm⟩ := h
  obtain ⟨a, ha, rfl⟩ := List.mem_map.1 (hperm.mem_iff.1 he)
  rcases List.mem_append.1 ha with ha | ha
  · rcases read_of_enter_mem hg with ⟨text, -, hread⟩ | ⟨piece, -, hread⟩
    · exact .inl (Group.read_others hread a ha)
    · exact .inl (Group.read_others hread a ha)
  · obtain ⟨piece, hpiece, hread⟩ := read_of_value_mem (hown a ha)
    rcases Group.read_lead hread with hvalue | hmis
    · exact .inl hvalue
    · exact .inr ⟨piece, hpiece, hmis, hread⟩

theorem compile_givenBy {options : Options} {text : String} {root : Container}
    (h : (compile options text).result = .ok root) :
    root = Container.empty ∨ ∀ q ∈ root.preorder 0, q.2.GivenBy (sourceActions text) := by
  apply (renews_of_compile h).givenBy (List.Subset.refl _)
  simp [Container.empty, Container.preorderAll]

/-- **Values.**  If a text compiles, every value of every container is
neither blank nor missing, or it is blank and was given by a group in a body
with at least two separators, of which at most one is before the closing
bracket. -/
theorem compile_values {options : Options} {text : String} {root : Container}
    (h : (compile options text).result = .ok root) :
    ∀ q ∈ root.preorder 0, ∀ e ∈ q.2.values.entries,
      (Text.isBlank e.value = false ∧ q.2.requireValue e.name = .ok e.value) ∨
        (Text.isBlank e.value = true ∧ ∃ piece ∈ bodyGroups (sourceLines text),
          Miscounted piece ∧ Group.read false piece = .ok ⟨⟨e.name, e.value⟩, []⟩) := by
  intro q hq e he
  rcases compile_givenBy h with rfl | hgiven
  · obtain rfl : q = (0, Container.empty) := by
      simpa [Container.preorder_eq, Container.empty, Container.preorderAll] using hq
    cases he
  · have hvalue := (hgiven q hq).value he
    rcases hblank : Text.isBlank e.value with - | -
    · exact .inl ⟨rfl, Container.requireValue_of_mem he hblank⟩
    · exact .inr ⟨rfl, hvalue.resolve_left (by simp [hblank])⟩

/-- Two values of a header, one of a body and two of a leaf. -/
theorem compile_values_leaf :
    let text := "[R:a=1,b=2]\x7b[K=v][L:p=3,q=4]\x7d"
    let leaf : Container := ⟨"L", none, (Values.empty.store ⟨"p", "3"⟩).store ⟨"q", "4"⟩, []⟩
    let root : Container := ⟨"R", none,
      ((Values.empty.store ⟨"a", "1"⟩).store ⟨"b", "2"⟩).store ⟨"K", "v"⟩, [leaf]⟩
    (compile {} text).result = .ok root ∧ ∀ q ∈ root.preorder 0, ∀ e ∈ q.2.values.entries,
      Text.isBlank e.value = false ∧ q.2.requireValue e.name = .ok e.value := by
  intro text leaf root
  have hroot : (compile {} text).result = .ok root := by decide +kernel
  have hcounted : ∀ piece ∈ bodyGroups (sourceLines text), ¬ Miscounted piece := by decide +kernel
  refine ⟨hroot, fun q hq e he => ?_⟩
  rcases compile_values hroot q hq e he with hvalue | ⟨-, piece, hpiece, hmis, -⟩
  · exact hvalue
  · exact absurd hmis (hcounted piece hpiece)

/-- A miscounted group gives its container a blank value, which is there but
cannot be asked for. -/
theorem compile_values_blank :
    let root : Container := ⟨"R", none, Values.empty.store ⟨"K", ""⟩, []⟩
    Miscounted "[K=]=x" ∧ (compile {} "[R]\x7b[K=]=x\x7d").result = .ok root ∧
      root.requireValue "K" = .error (Cause.missing "K").failure := by
  decide +kernel

end ContainerMarkup
