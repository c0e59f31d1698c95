/-
ContainerMarkup/Proofs/Outline.lean

The lines of an outline.  An outline is written by a walk, so it is a heading
for each container in preorder, in a detailed outline with the details of its
values behind it (`Container.outline_eq`):

    root.outline true = join of (heading q :: details q) for q in preorder

Whether these are the lines of the text depends on what the names and values
are made of: a line break in one of them makes two lines of one, and a value
whose name begins with a bracket looks like a container.  Compiled trees have
neither, since every pass rules out some characters (`Container.WellSpelled`).

Main result: the lines of the outline of a compiled tree are the headings and
the details, and the headings are those lines that begin with a bracket
(`compile_outline`).
-/
import ContainerMarkup.Proofs.Spelling
import ContainerMarkup.Proofs.Visits
import ContainerMarkup.Tree.Outline

namespace ContainerMarkup

/-! ### Lines of a text -/

namespace Text

/-- The lines of a text, each with the line break that ends it.  What stands
behind the last line break is a line without one. -/
def rowsOf : List Char → List (List Char)
  | [] => []
  | c :: rest =>
    if c = '\n' then [c] :: rowsOf rest
    else
      match rowsOf rest with
      | [] => [[c]]
      | row :: rows => (c :: row) :: rows

/-- The lines of a string, each with the line break that ends it. -/
def rows (s : String) : List String := (rowsOf s.toList).map String.ofList

/-- A line that is ended by a line break. -/
def IsRow (s : String) : Prop := ∃ body, s = body ++ "\n" ∧ '\n' ∉ body.toList

theorem rowsOf_append {body : List Char} (h : '\n' ∉ body) (rest : List Char) :
    rowsOf (body ++ '\n' :: rest) = (body ++ ['\n']) :: rowsOf rest := by
  induction body with
  | nil => rfl
  | cons c body ih =>
    have hc : c ≠ '\n' := fun e => h (e ▸ List.mem_cons_self)
    have hbody : '\n' ∉ body := fun hmem => h (List.mem_cons_of_mem c hmem)
    rw [List.cons_append, rowsOf, if_neg hc, ih hbody]
    rfl

/-- Lines, one behind the other, are the lines of the text they make. -/
theorem rows_join {lines : List String} (h : ∀ line ∈ lines, IsRow line) :
    rows (String.join lines) = lines := by
  induction lines with
  | nil => rfl
  | cons line lines ih =>
    obtain ⟨⟨body, rfl, hbody⟩, hlines⟩ := List.forall_mem_cons.1 h
    have hrest := ih hlines
    rw [rows] at hrest ⊢
    rw [String.join_cons, String.toList_append, String.toList_append, List.append_assoc]
    show (rowsOf (body.toList ++ '\n' :: (String.join lines).toList)).map String.ofList = _
    rw [rowsOf_append hbody, List.map_cons, hrest]
    simp

end Text

/-! ### Headings and details -/

namespace Outline

/-- The line of a container at a depth. -/
def heading (q : Nat × Container) : String := containerLine q.2 q.1

/-- The lines of the values of a container at a depth. -/
def details (q : Nat × Container) : List String :=
  q.2.values.entries.map fun e => valueLine e.name e.value (q.1 + 1)

/-- What an outline has for a container. -/
def block (detailed : Bool) (q : Nat × Container) : List String :=
  heading q :: if detailed then details q else []

/-- What an outline has for a call. -/
def shown (detailed : Bool) : Visit → List String
  | .enter c p => [containerLine c p.depth]
  | .value name text p => if detailed then [valueLine name text p.depth] else []
  | .leave _ _ => []

variable (detailed : Bool)

theorem visitor_call (visit : Visit) :
    (visitor detailed).call visit = modify (· ++ String.join (shown detailed visit)) := by
  cases visit with
  | enter c p => simp [Visitor.call, visitor, shown]
  | value name text p =>
    cases detailed with
    | true => simp [Visitor.call, visitor, shown]
    | false =>
      simp only [shown, Bool.false_eq_true, if_false, String.join_nil, String.append_empty]
      rfl
  | leave c p =>
    simp only [shown, String.join_nil, String.append_empty]
    rfl

theorem foldl_shown (visits : List Visit) (out : String) :
    visits.foldl (fun out visit => out ++ String.join (shown detailed visit)) out =
      out ++ String.join (visits.flatMap (shown detailed)) := by
  induction visits generalizing out with
  | nil => simp
  | cons visit visits ih =>
    rw [List.foldl_cons, ih, List.flatMap_cons, String.join_append, String.append_assoc]

mutual
theorem shown_visitsAt (p : Place) : (c : Container) →
    (c.visitsAt p).flatMap (shown detailed) = (c.preorder p.depth).flatMap (block detailed)
  | ⟨name, default, values, children⟩ => by
    rw [Container.visitsAt, Container.preorder, List.flatMap_cons, List.flatMap_cons,
      List.flatMap_append, List.flatMap_append, shown_visitsAll (p.inside name) children]
    -- the values are visited inside the container, so their lines stand one level further in
    have hvalues : (values.entries.map fun e => Visit.value e.name e.value (p.inside name)).flatMap
        (shown detailed) =
          if detailed then details (p.depth, ⟨name, default, values, children⟩) else [] := by
      rw [List.flatMap_map]
      cases detailed with
      | true => exact List.map_eq_flatMap.symm
      | false => simp [shown]
    rw [hvalues]
    simp [shown, block, heading, Place.inside]

theorem shown_visitsAll (p : Place) : (cs : List Container) →
    (Container.visitsAll p cs).flatMap (shown detailed) =
      (Container.preorderAll p.depth cs).flatMap (block detailed)
  | [] => rfl
  | c :: rest => by
    rw [Container.visitsAll, Container.preorderAll, List.flatMap_append, List.flatMap_append,
      shown_visitsAt p c, shown_visitsAll p rest]
end

end Outline

/-- An outline goes through the containers of a tree in preorder. -/
theorem Container.outline_eq (detailed : Bool) (c : Container) :
    c.outline detailed = String.join ((c.preorder 0).flatMap (Outline.block detailed)) := by
  rw [Container.outline, Container.run_walk _ (Outline.visitor_call detailed)]
  show c.visits.foldl _ "" = _
  rw [Outline.foldl_shown, String.empty_append]
  exact congrArg String.join (Outline.shown_visitsAt detailed {} c)

/-! ### What lines are made of -/

theorem newline_not_mem_toString (n : Nat) : '\n' ∉ (toString n).toList := by
  intro hmem
  rw [Nat.toString_eq_repr, Nat.toList_repr] at hmem
  exact absurd (Nat.isDigit_of_mem_toDigits (by decide) (by decide) hmem) (by decide)

theorem newline_not_mem_indent (depth : Nat) : '\n' ∉ (Text.indent depth).toList := by
  simp [Text.indent]

/-- A container without a line break in its name, its default and its values,
whose values have names that begin, behind spaces, with something else than
a bracket. -/
structure Container.FitsLines (c : Container) : Prop where
  name : '\n' ∉ c.name.toList
  default : ∀ d ∈ c.default, '\n' ∉ d.toList
  entry : ∀ e ∈ c.values.entries, '\n' ∉ e.name.toList ∧ '\n' ∉ e.value.toList
  begins : ∀ e ∈ c.values.entries, ∃ x, e.name.toList.find? (· != ' ') = some x ∧ x ≠ '['

theorem IsName.newline_not_mem {s : String} (h : IsName s) : '\n' ∉ s.toList :=
  fun hmem => absurd (h.characters _ hmem) (by decide)

theorem IsValue.newline_not_mem {s : String} (h : IsValue s) : '\n' ∉ s.toList :=
  fun hmem => absurd (h _ hmem) (by decide)

theorem IsName.begins {s : String} (h : IsName s) :
    ∃ x, s.toList.find? (· != ' ') = some x ∧ x ≠ '[' := by
  have hsome : (s.toList.find? (· != ' ')).isSome := by
    rw [List.find?_isSome]
    by_contra hnone
    -- a name of spaces alone is blank
    have hblank : Text.isBlank s = true := by
      rw [Text.isBlank, Text.allBlank, List.all_eq_true]
      intro x hx
      have hspace : x = ' ' := by
        by_contra hne
        exact hnone ⟨x, hx, by simpa using hne⟩
      rw [hspace]
      decide
    rw [h.not_blank] at hblank
    cases hblank
  obtain ⟨x, hx⟩ := Option.isSome_iff_exists.1 hsome
  refine ⟨x, hx, ?_⟩
  rintro rfl
  exact absurd (h.characters _ (List.mem_of_find?_eq_some hx)) (by decide)

theorem Container.WellSpelled.fitsLines {c : Container} (h : c.WellSpelled) : c.FitsLines where
  name := h.name.newline_not_mem
  default d hd := (h.default d hd).2.newline_not_mem
  entry e he := ⟨(h.names e he).newline_not_mem, (h.values e he).newline_not_mem⟩
  begins e he := (h.names e he).begins

theorem Container.fitsLines_empty : Container.empty.FitsLines := by
  constructor
  · simp [Container.empty]
  · simp [Container.empty]
  · simp [Container.empty, Values.empty, Values.entries]
  · simp [Container.empty, Values.empty, Values.entries]

theorem compile_fitsLines {options : Options} {text : String} {root : Container}
    (h : (compile options text).result = .ok root) : ∀ q ∈ root.preorder 0, q.2.FitsLines := by
  rcases compile_givenBy h with rfl | hgiven
  · rw [Container.preorder_eq, List.forall_mem_cons]
    refine ⟨Container.fitsLines_empty, ?_⟩
    simp [Container.empty, Container.preorderAll]
  · exact fun q hq => (hgiven q hq).wellSpelled.fitsLines

namespace Outline

/-! ### The lines of containers and values -/

variable {q : Nat × Container}

/-- A title begins with a bracket; behind it are the name and the default. -/
theorem title_eq (c : Container) :
    title c = "[" ++ (c.name ++ ((c.default.map (":" ++ ·)).getD "" ++ "]")) := by
  unfold title
  split
  · next d hd =>
    show "[" ++ c.name ++ ":" ++ d ++ "]" = _
    simp [hd, String.append_assoc]
  · next hd =>
    show "[" ++ c.name ++ "]" = _
    simp [hd, String.append_assoc]

theorem newline_not_mem_title {c : Container} (h : c.FitsLines) : '\n' ∉ (title c).toList := by
  have hdefault : '\n' ∉ ((c.default.map (":" ++ ·)).getD "").toList := by
    rcases hd : c.default with - | d
    · simp
    · simpa using h.default d hd
  simp [title_eq, h.name, hdefault]

theorem newline_not_mem_valueCount (n : Nat) : '\n' ∉ (valueCount n).toList := by
  unfold valueCount
  split
  · decide
  · decide
  · show '\n' ∉ (" (" ++ toString n ++ " values)").toList
    rw [String.toList_append, String.toList_append, List.mem_append, List.mem_append]
    rintro ((hmem | hmem) | hmem)
    · exact absurd hmem (by decide)
    · exact newline_not_mem_toString n hmem
    · exact absurd hmem (by decide)

theorem isRow_heading (h : q.2.FitsLines) : Text.IsRow (heading q) := by
  refine ⟨Text.indent q.1 ++ title q.2 ++ valueCount q.2.values.size, rfl, ?_⟩
  simp [newline_not_mem_indent, newline_not_mem_title h, newline_not_mem_valueCount]

theorem isRow_details (h : q.2.FitsLines) : ∀ line ∈ details q, Text.IsRow line := by
  intro line hline
  obtain ⟨e, he, rfl⟩ := List.mem_map.1 hline
  obtain ⟨hname, hvalue⟩ := h.entry e he
  refine ⟨Text.indent (q.1 + 1) ++ e.name ++ " = \"" ++ e.value ++ "\"", ?_, ?_⟩
  · simp [valueLine, String.append_assoc]
  · simp [newline_not_mem_indent, hname, hvalue]

theorem isRow_block {detailed : Bool} (h : q.2.FitsLines) :
    ∀ line ∈ block detailed q, Text.IsRow line := by
  rw [block, List.forall_mem_cons]
  refine ⟨isRow_heading h, ?_⟩
  cases detailed with
  | true => exact isRow_details h
  | false => simp

/-- A heading is a bracket behind two spaces for each level. -/
theorem heading_begins (q : Nat × Container) :
    ∃ rest, (heading q).toList = List.replicate (2 * q.1) ' ' ++ '[' :: rest := by
  simp [heading, containerLine, Text.indent, title_eq]

/-- Whether the first character of a line that is no space is an opening
bracket. -/
def opensBracket (line : String) : Bool := line.toList.find? (· != ' ') == some '['

theorem opensBracket_heading (q : Nat × Container) : opensBracket (heading q) = true := by
  obtain ⟨rest, hrest⟩ := heading_begins q
  simp [opensBracket, hrest, List.find?_append]

theorem opensBracket_details (h : q.2.FitsLines) :
    ∀ line ∈ details q, opensBracket line = false := by
  intro line hline
  obtain ⟨e, he, rfl⟩ := List.mem_map.1 hline
  obtain ⟨x, hfind, hx⟩ := h.begins e he
  simp [opensBracket, valueLine, Text.indent, List.find?_append, hfind, hx]

/-! ### All lines of an outline -/

variable {tree : List (Nat × Container)}

theorem isRow_blocks {detailed : Bool} (h : ∀ q ∈ tree, q.2.FitsLines) :
    ∀ line ∈ tree.flatMap (block detailed), Text.IsRow line := by
  intro line hline
  obtain ⟨q, hq, hmem⟩ := List.mem_flatMap.1 hline
  exact isRow_block (h q hq) line hmem

theorem blocks_plain (tree : List (Nat × Container)) :
    tree.flatMap (block false) = tree.map heading := List.map_eq_flatMap.symm

theorem length_blocks (tree : List (Nat × Container)) :
    (tree.flatMap (block true)).length =
      tree.length + (tree.flatMap fun q => q.2.values.entries).length := by
  induction tree with
  | nil => rfl
  | cons q tree ih =>
    have hblock : (block true q).length = q.2.values.entries.length + 1 := by
      simp [block, details]
    rw [List.flatMap_cons, List.flatMap_cons, List.length_append, List.length_append, ih, hblock,
      List.length_cons]
    omega

/-- The lines that begin with a bracket are the headings. -/
theorem filter_blocks (h : ∀ q ∈ tree, q.2.FitsLines) :
    (tree.flatMap (block true)).filter opensBracket = tree.map heading := by
  induction tree with
  | nil => rfl
  | cons q tree ih =>
    obtain ⟨hq, htree⟩ := List.forall_mem_cons.1 h
    -- of each block just the heading remains
    have hblock : (block true q).filter opensBracket = [heading q] := by
      rw [block, List.filter_cons, if_pos (opensBracket_heading q), if_pos rfl,
        List.filter_eq_nil_iff.2 (by simpa using opensBracket_details hq)]
    rw [List.flatMap_cons, List.filter_append, hblock, ih htree]
    rfl

end Outline

open Outline in
/-- **Outlines.**  If a text compiles, the lines of the outline are the
headings of the containers in preorder, and those of the detailed outline
have the details of each container directly behind its heading.  So there is
a line for each container, and one more for each value.  Every line ends with
a line break.  A heading begins with two spaces for each level and a bracket,
and the lines that begin so, behind any number of spaces, make the plain
outline. -/
theorem compile_outline {options : Options} {text : String} {root : Container}
    (h : (compile options text).result = .ok root) :
    let tree := root.preorder 0
    let plain := Text.rows (root.outline false)
    let detailed := Text.rows (root.outline true)
    plain = tree.map heading ∧
      detailed = tree.flatMap (fun q => heading q :: details q) ∧
      plain.length = tree.length ∧
      detailed.length = tree.length + (tree.flatMap fun q => q.2.values.entries).length ∧
      (∀ line ∈ plain ++ detailed, Text.IsRow line) ∧
      (∀ q ∈ tree, ∃ rest,
        (heading q).toList = List.replicate (2 * q.1) ' ' ++ '[' :: rest) ∧
      String.join (detailed.filter opensBracket) = root.outline false := by
  intro tree plain detailed
  have hfits : ∀ q ∈ tree, q.2.FitsLines := compile_fitsLines h
  have hplain : plain = tree.flatMap (block false) := by
    show Text.rows (root.outline false) = _
    rw [Container.outline_eq, Text.rows_join (isRow_blocks hfits)]
  have hdetailed : detailed = tree.flatMap (block true) := by
    show Text.rows (root.outline true) = _
    rw [Container.outline_eq, Text.rows_join (isRow_blocks hfits)]
  refine ⟨?_, hdetailed, ?_, ?_, ?_, fun q _ => heading_begins q, ?_⟩
  · rw [hplain, blocks_plain]
  · rw [hplain, blocks_plain, List.length_map]
  · rw [hdetailed, length_blocks]
  · rw [hplain, hdetailed, List.forall_mem_append]
    exact ⟨isRow_blocks hfits, isRow_blocks hfits⟩
  · rw [hdetailed, filter_blocks hfits, Container.outline_eq, blocks_plain]

/-- A default, a value whose name begins with spaces, another value, and a
child. -/
theorem compile_outline_spaces :
    let text := "[Site:a]\x7b[\"  x\"=1][Y=2][Exit]\x7b\x7d\x7d"
    let root : Container := ⟨"Site", some "a",
      (Values.empty.store ⟨"  x", "1"⟩).store ⟨"Y", "2"⟩, [⟨"Exit", none, Values.empty, []⟩]⟩
    (compile {} text).result = .ok root ∧
      Text.rows (root.outline true) =
        ["[Site:a] (2 values)\n", "    x = \"1\"\n", "  Y = \"2\"\n", "  [Exit]\n"] ∧
      String.join ((Text.rows (root.outline true)).filter Outline.opensBracket) =
        root.outline false := by
  intro text root
  have hroot : (compile {} text).result = .ok root := by decide +kernel
  obtain ⟨-, hdetailed, -, -, -, -, hfilter⟩ := compile_outline hroot
  exact ⟨hroot, hdetailed.trans (by decide +kernel), hfilter⟩

end ContainerMarkup
