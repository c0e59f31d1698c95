/-
ContainerMarkup/Proofs/RoundTrip.lean

Every layout of a plain tree compiles to the tree, without a warning
(`compile_layout`).

The parts of the argument are in other modules: a text condenses to the
characters of its tokens, groups read as what they were written from, and a
word of actions that describes a tree builds it.  What is left are the lines.
Condensed text is cut only at braces, so a run of groups is collected until a
brace comes, and then cut in two before its last bracket.  The induction over
a body therefore carries the groups collected since the last brace
(`Body.asks`): whatever they are, the lines ask for what they ask for, then
for what the body describes.
-/
import ContainerMarkup.Proofs.Compile
import ContainerMarkup.Proofs.Condensing
import ContainerMarkup.Proofs.Description
import ContainerMarkup.Proofs.Line
import ContainerMarkup.Proofs.Reading

namespace ContainerMarkup

open Source

/-! ### Runs of groups -/

/-- A group of a body, as it is written behind its bracket and as it reads. -/
structure Piece where
  text : List Char
  group : Group
  reads : Reads false text group

namespace Piece

/-- The characters of a group. -/
def chars (p : Piece) : List Char := '[' :: p.text

/-- What a group asks for. -/
def actions (p : Piece) : List Action := p.group.actions

theorem not_brace (p : Piece) : ∀ c ∈ p.chars, isBrace c = false := p.reads.not_brace

theorem pieceActions_eq (p : Piece) : pieceActions (String.ofList p.chars) = p.actions := by
  rw [pieceActions, chars, p.reads.read]
  rfl

end Piece

variable {previous : Option String} {rest : List String} {as after : List Action}

theorem not_brace_pieces (ps : List Piece) : ∀ c ∈ ps.flatMap Piece.chars, isBrace c = false := by
  intro c hc
  obtain ⟨p, -, hc⟩ := List.mem_flatMap.1 hc
  exact p.not_brace c hc

theorem cut_pieces (ps : List Piece) {t : List Char} (ht : '[' ∉ t) :
    Text.cut '[' (t ++ ps.flatMap Piece.chars) = t :: ps.map Piece.text := by
  induction ps generalizing t with
  | nil => simp [cut_of_not_mem ht]
  | cons p ps ih =>
    rw [List.flatMap_cons, Piece.chars, List.cons_append, cut_append ht, ih p.reads.bracket_not_mem,
      List.map_cons]

/-- The groups of a line are the groups it was put together from. -/
theorem groupsOf_pieces (ps : List Piece) :
    Assembly.groupsOf (String.ofList (ps.flatMap Piece.chars)) =
      ps.map fun p => String.ofList p.chars := by
  have hcut := cut_pieces ps (t := []) (by simp)
  have hne : ∀ t ∈ ps.map Piece.text, !t.isEmpty := by
    intro t ht
    obtain ⟨p, -, rfl⟩ := List.mem_map.1 ht
    simpa using p.reads.ne_nil
  rw [List.nil_append] at hcut
  rw [Assembly.groupsOf, String.toList_ofList, hcut, List.filter_cons_of_neg (by simp),
    List.filter_eq_self.2 hne, List.map_map]
  rfl

/-- A run of groups is cut in two before its last group. -/
theorem bodyLines_pieces (ps : List Piece) {q : List Char} (hq : '[' ∉ q) :
    bodyLines (ps.flatMap Piece.chars ++ '[' :: q).reverse =
      (if ps = [] then [] else [ps.flatMap Piece.chars]) ++ ['[' :: q] := by
  rw [bodyLines_bracket _ hq]
  cases ps with
  | nil => simp
  | cons p ps => simp [Piece.chars]

/-! ### Lines that ask for actions -/

/-- Lines that can be read and ask for these actions. -/
structure Asks (previous : Option String) (lines : List String) (as : List Action) : Prop where
  readable : Readable previous lines
  actions_eq : actionsAfter previous lines = as

/-- A line of groups asks for what the groups ask for. -/
theorem asks_pieces (ps : List Piece)
    (h : Asks (some (String.ofList (ps.flatMap Piece.chars))) rest as)
    {following : String} (hnext : rest.head? = some following) (hne : following ≠ opener) :
    Asks previous (String.ofList (ps.flatMap Piece.chars) :: rest)
      (ps.flatMap Piece.actions ++ as) := by
  obtain ⟨hopen, hclose⟩ := ne_brace_of_body (not_brace_pieces ps)
  have hbody : IsBody (String.ofList (ps.flatMap Piece.chars)) rest.head? :=
    ⟨hopen, hclose, following, hnext, hne⟩
  constructor
  · refine ⟨⟨fun e => absurd e hopen, fun _ piece hpiece => ?_⟩, h.readable⟩
    rw [groupsOf_pieces] at hpiece
    obtain ⟨p, -, rfl⟩ := List.mem_map.1 hpiece
    exact ⟨p.group, p.reads.read⟩
  · rw [actionsAfter_body hbody, groupsOf_pieces, List.flatMap_map, h.actions_eq]
    simp only [Piece.pieceActions_eq]

/-- The closing line asks for the container to be closed. -/
theorem asks_closer (h : Asks (some closer) rest as) :
    Asks previous (closer :: rest) (.leave :: as) := by
  constructor
  · refine ⟨⟨fun e => absurd e (by decide), fun hbody => absurd rfl hbody.2.1⟩, h.readable⟩
  · rw [actionsAfter_closer, h.actions_eq]

/-- A header and the opening line ask for a container to be opened. -/
theorem asks_opener {q : List Char} {g : Group} (hq : Reads true q g)
    (h : Asks (some opener) rest as) :
    Asks previous (String.ofList ('[' :: q) :: opener :: rest) (.enter g :: as) := by
  obtain ⟨hopen, hclose⟩ := ne_brace_of_body hq.not_brace
  have hbody : ¬ IsBody (String.ofList ('[' :: q)) (opener :: rest).head? := by
    rintro ⟨-, -, following, hnext, hne⟩
    exact hne (Option.some.inj hnext).symm
  constructor
  · refine ⟨⟨fun e => absurd e hopen, fun hb => absurd hb hbody⟩, ?_, h.readable⟩
    exact ⟨fun _ => ⟨_, g, rfl, hq.read⟩, fun hb => absurd rfl hb.1⟩
  · rw [actionsAfter_other hopen hclose hbody, actionsAfter_opener hq.read, h.actions_eq]

/-! ### The lines of a body -/

/-- The lines of the rest of a text, given the characters since the last
brace. -/
def linesAfter (pending t : List Char) : List String :=
  (linesFrom pending.reverse [] t).map String.ofList

theorem linesAfter_body {b : List Char} (h : ∀ c ∈ b, isBrace c = false) (pending t : List Char) :
    linesAfter pending (b ++ t) = linesAfter (pending ++ b) t := by
  rw [linesAfter, linesFrom_body h, ← List.reverse_append, linesAfter]

theorem linesAfter_brace {c : Char} (h : isBrace c) (pending t : List Char) :
    linesAfter pending (c :: t) =
      (bodyLines pending.reverse).map String.ofList ++ String.ofList [c] :: linesAfter [] t := by
  rw [linesAfter, linesFrom_brace h, List.map_append, List.map_cons, linesAfter, List.reverse_nil]

/-- A group joins those that are pending. -/
theorem linesAfter_piece (ps : List Piece) (p : Piece) (t : List Char) :
    linesAfter (ps.flatMap Piece.chars) (p.chars ++ t) =
      linesAfter ((ps ++ [p]).flatMap Piece.chars) t := by
  rw [linesAfter_body p.not_brace, List.flatMap_append, List.flatMap_singleton]

/-- Groups before the closing line are all read. -/
theorem asks_pieces_closer (previous : Option String) (ps : List Piece) {t : List Char}
    (h : Asks (some closer) (linesAfter [] t) after) :
    Asks previous (linesAfter (ps.flatMap Piece.chars) ('\x7d' :: t))
      (ps.flatMap Piece.actions ++ .leave :: after) := by
  have hclose : ∀ line, Asks line (closer :: linesAfter [] t) (.leave :: after) :=
    fun _ => asks_closer h
  rw [linesAfter_brace (by decide)]
  rcases List.eq_nil_or_concat ps with rfl | ⟨ps, p, rfl⟩
  · exact hclose previous
  · have hlast : ∀ line, Asks line (String.ofList p.chars :: closer :: linesAfter [] t)
        (p.actions ++ .leave :: after) := by
      intro line
      have hpiece : Asks line (String.ofList ([p].flatMap Piece.chars) :: closer :: linesAfter [] t)
          ([p].flatMap Piece.actions ++ .leave :: after) :=
        asks_pieces [p] (hclose _) rfl opener_ne_closer.symm
      rwa [List.flatMap_singleton, List.flatMap_singleton] at hpiece
    rw [List.concat_eq_append, List.flatMap_append, List.flatMap_append, List.flatMap_singleton,
      List.flatMap_singleton, Piece.chars, bodyLines_pieces ps p.reads.bracket_not_mem, List.append_assoc]
    -- the last group is a line of its own, and the line before it holds the others
    split
    · next hnil =>
      subst hnil
      exact hlast previous
    · refine asks_pieces ps (hlast _) rfl ?_
      exact (ne_brace_of_body p.not_brace).1

/-- Groups before a header are all read, and the header is left for the
opening line. -/
theorem asks_pieces_opener (previous : Option String) (ps : List Piece) {q : List Char}
    {g : Group} (hq : Reads true q g) {t : List Char}
    (h : Asks (some opener) (linesAfter [] t) after) :
    Asks previous (linesAfter (ps.flatMap Piece.chars) ('[' :: (q ++ '\x7b' :: t)))
      (ps.flatMap Piece.actions ++ .enter g :: after) := by
  have hheader : ∀ line, Asks line (String.ofList ('[' :: q) :: opener :: linesAfter [] t)
      (.enter g :: after) := fun _ => asks_opener hq h
  rw [← List.cons_append, linesAfter_body hq.not_brace, linesAfter_brace (by decide),
    bodyLines_pieces ps hq.bracket_not_mem]
  split
  · next hnil =>
    subst hnil
    exact hheader previous
  · exact asks_pieces ps (hheader _) rfl (ne_brace_of_body hq.not_brace).1

/-- **Bodies.**  The lines of a body ask for the groups that were pending and
then for a description of its values and children. -/
theorem Body.asks {vs : List Attribute} {cs : List Container} {ts : List Token}
    (h : Body vs cs ts) (hplain : PlainWords ts) :
    ∃ as, Described as vs cs ∧ ∀ (ps : List Piece) (previous : Option String) (t : List Char)
      (after : List Action), Asks (some closer) (linesAfter [] t) after →
      Asks previous (linesAfter (ps.flatMap Piece.chars) (ts.flatMap Token.chars ++ '\x7d' :: t))
        (ps.flatMap Piece.actions ++ (as ++ .leave :: after)) := by
  induction h with
  | nil => exact ⟨[], .nil, fun ps previous _ _ hafter => asks_pieces_closer previous ps hafter⟩
  | @value sep a vs cs ts hsep _ ih =>
    obtain ⟨ha, hts⟩ := plainWords_append.1 (plainWords_mark.1 hplain)
    obtain ⟨as, hdesc, hasks⟩ := ih (plainWords_mark.1 hts)
    let p : Piece := ⟨_, _, reads_pair ha hsep⟩
    have hchars : (.mark '[' :: (a.tokens sep ++ .mark ']' :: ts)).flatMap Token.chars =
        p.chars ++ ts.flatMap Token.chars := by
      simp [p, Piece.chars, Token.chars]
    refine ⟨.value a :: as, .value hdesc, fun ps previous t after hafter => ?_⟩
    -- the group joins those that are pending, and the rest takes over from there
    have hnext := hasks (ps ++ [p]) previous t after hafter
    rw [hchars, List.append_assoc, linesAfter_piece]
    simpa [p, Piece.actions, Group.actions] using hnext
  | @leaf name default values header vs cs hs ts hhs hsome hvalues _ ih =>
    obtain ⟨hhead, hts⟩ := plainWords_append.1 hplain
    obtain ⟨as, hdesc, hasks⟩ := ih hts
    obtain ⟨q, hq, hreads⟩ := hhs.reads hhead false (fun e => absurd e hsome)
    let p : Piece := ⟨q, _, hreads⟩
    -- a leaf is a group of several pairs, so it opens and closes a container
    have hchild := Described.child (g := p.group) .nil
      (by simpa using Values.insertAll_of_perm hvalues) hdesc
    rw [hhs.default?_eq hhead] at hchild
    refine ⟨_, hchild, fun ps previous t after hafter => ?_⟩
    have hnext := hasks (ps ++ [p]) previous t after hafter
    rw [List.flatMap_append, hq, List.append_assoc]
    show Asks previous (linesAfter _ (p.chars ++ _)) _
    rw [linesAfter_piece]
    simpa [p, Piece.actions, Group.actions, hsome] using hnext
  | @child name default values header own vs kids cs hs inner ts hhs _ hvalues _ ihInner ihRest =>
    obtain ⟨hhead, hbody⟩ := plainWords_append.1 hplain
    obtain ⟨hinner, hts⟩ := plainWords_append.1 (plainWords_mark.1 hbody)
    obtain ⟨as, hdesc, hasks⟩ := ihInner hinner
    obtain ⟨bs, hdesc', hasks'⟩ := ihRest (plainWords_mark.1 hts)
    obtain ⟨q, hq, hreads⟩ := hhs.reads hhead true (fun _ => rfl)
    have hchild := Described.child (g := ⟨⟨name, default.getD ""⟩, header⟩) hdesc
      (Values.insertAll_of_perm hvalues) hdesc'
    rw [hhs.default?_eq hhead] at hchild
    refine ⟨_, hchild, fun ps previous t after hafter => ?_⟩
    -- nothing is pending behind either brace
    have hrest := hasks' [] (some closer) t after hafter
    have hinside := hasks [] (some opener) _ _ hrest
    have hopen := asks_pieces_opener previous ps hreads hinside
    simpa [hq, Token.chars] using hopen

/-- The lines of a tree ask for a description of it. -/
theorem TreeTokens.asks {root : Container} {ts : List Token} (h : TreeTokens root ts)
    (hplain : PlainWords ts) :
    ∃ as, Described as [] [root] ∧ Asks none (linesAfter [] (ts.flatMap Token.chars)) as := by
  obtain @⟨name, default, values, header, own, kids, hs, inner, hhs, hinner, hvalues⟩ := h
  obtain ⟨hhead, hbody⟩ := plainWords_append.1 hplain
  obtain ⟨as, hdesc, hasks⟩ := hinner.asks (plainWords_append.1 (plainWords_mark.1 hbody)).1
  obtain ⟨q, hq, hreads⟩ := hhs.reads hhead true (fun _ => rfl)
  have hchild := Described.child (g := ⟨⟨name, default.getD ""⟩, header⟩) hdesc
    (Values.insertAll_of_perm hvalues) .nil
  rw [hhs.default?_eq hhead] at hchild
  refine ⟨_, hchild, ?_⟩
  have hinside := hasks [] (some opener) [] [] ⟨trivial, rfl⟩
  have hopen := asks_pieces_opener none [] hreads hinside
  simpa [hq, Token.chars] using hopen

/-! ### Compiling a layout -/

/-- Limits that have room for the size of a text and for the height and the
number of containers of its tree. -/
structure Limits.RoomFor (limits : Limits) (root : Container) (text : String) : Prop where
  fileSize : text.utf8ByteSize ≤ limits.fileSize
  depth : ∀ q ∈ root.preorder 0, q.1 < limits.depth
  containers : (root.preorder 0).length ≤ limits.containers

/-- A layout is condensed without a warning, and its lines ask for a
description of the tree. -/
theorem condense_layout {root : Container} {text : String}
    (hplain : ∀ q ∈ root.preorder 0, q.2.IsPlain) (hlayout : root.Layout text) :
    (condense text).warnings = [] ∧
      ∃ as, Described as [] [root] ∧ Asks none (sourceLines text) as := by
  obtain ⟨ts, htokens, hwritten⟩ := hlayout
  have hwords := htokens.plainWords hplain
  obtain ⟨as, hdesc, hasks⟩ := htokens.asks hwords
  have hcondense := condense_written hwritten hwords
  have hlines : sourceLines text = linesAfter [] (ts.flatMap Token.chars) := by
    rw [sourceLines, hcondense, Source.lines, String.toList_ofList]
    rfl
  rw [hlines, hcondense]
  exact ⟨rfl, as, hdesc, hasks⟩

/-- **Round trip.**  Every layout of a plain tree compiles to the tree,
without a warning, under limits that have room for it. -/
theorem compile_layout {options : Options} {root : Container} {text : String}
    (hplain : ∀ q ∈ root.preorder 0, q.2.IsPlain) (hlayout : root.Layout text)
    (hroom : options.limits.RoomFor root text) :
    (compile options text).result = .ok root ∧
      Diagnostic.ofSeverity .warning (compile options text).diagnostics = [] := by
  obtain ⟨hwarnings, as, hdesc, hreadable, hactions⟩ := condense_layout hplain hlayout
  have hpreorder : Container.preorderAll 0 [root] = root.preorder 0 := by
    rw [Container.preorderAll, Container.preorderAll, List.append_nil]
  -- the description bounds what the lines open by what is in the tree
  have hassemble : (assemble options.limits (sourceLines text)).result = .ok root := by
    refine assemble_eq_ok_iff.2 ⟨hreadable, ?_⟩
    rw [actions, hactions]
    refine ⟨(run_eq_some_iff_described.2 hdesc).1, ?_, ?_⟩
    · rw [hdesc.peak_le_iff, hpreorder]
      exact ⟨Nat.zero_le _, hroom.depth⟩
    · rw [hdesc.openings 0, hpreorder]
      exact hroom.containers
  rw [compile_of_fits hroom.fileSize, hassemble]
  refine ⟨rfl, ?_⟩
  simp [reportOf, hwarnings, Diagnostic.ofSeverity, Report.message, Report.closing]

/-- A tree with a value, a leaf and a child inside. -/
def site : Container :=
  ⟨"My Site", some "v 1", (Values.empty.store ⟨"Port", "80"⟩).store ⟨"a/b", "x y"⟩,
    [⟨"Leaf", none, Values.empty.store ⟨"k", "v"⟩, []⟩, ⟨"Sub", some "d", Values.empty, []⟩]⟩

/-- One layout of the tree. -/
def siteText : String :=
  "[ \"My Site\": \"v 1\", Port=80] /*n.b.*/\n\x7b [a/b:\"x y\"] [Leaf:k=v] [Sub=d]\x7b\x7d \x7d"

theorem site_layout : site.Layout siteText := by
  have hblank : Blanks [' '] := .space (.inl rfl) .nil
  have hcomment : Comment ['n', '.', 'b', '.'] :=
    ⟨by simp [isPrintable], by decide, by decide⟩
  have hbreak : Blanks (' ' :: '/' :: '*' :: (['n', '.', 'b', '.'] ++ '*' :: '/' :: ['\n'])) :=
    .space (.inl rfl) (.comment hcomment (.space (.inr rfl) .nil))
  -- which values stand where
  have hcolon : isSeparator ':' := rfl
  have hequals : isSeparator '=' := rfl
  have hheader : Header "My Site" (some "v 1") [⟨"Port", "80"⟩] _ := .both hcolon (.one hequals)
  have hleaf : Header "Leaf" none [⟨"k", "v"⟩] _ := .pairs hcolon (.one hequals)
  have hsub : Header "Sub" (some "d") [] _ := .default hequals
  have hbody : Body [⟨"a/b", "x y"⟩] site.children _ :=
    .value hcolon (.leaf hleaf (by simp) (by decide +kernel) (.child hsub .nil (.refl _) .nil))
  have htokens : TreeTokens site _ := .mk hheader hbody (by decide +kernel)
  -- how the tokens are spelled
  have hwritten := Written.mark (c := '[') .nil rfl <|
    .word (s := "My Site") (c := ':') hblank .quoted <| .mark .nil rfl <|
    .word (s := "v 1") (c := ',') hblank .quoted <| .mark .nil rfl <|
    .word (s := "Port") (c := '=') hblank (.bare (by decide +kernel)) <| .mark .nil rfl <|
    .word (s := "80") (c := ']') .nil (.bare (by decide +kernel)) <| .mark .nil rfl <|
    .mark (c := '\x7b') hbreak rfl <| .mark (c := '[') hblank rfl <|
    .word (s := "a/b") (c := ':') .nil (.bare (by decide +kernel)) <| .mark .nil rfl <|
    .word (s := "x y") (c := ']') .nil .quoted <| .mark .nil rfl <|
    .mark (c := '[') hblank rfl <|
    .word (s := "Leaf") (c := ':') .nil (.bare (by decide +kernel)) <| .mark .nil rfl <|
    .word (s := "k") (c := '=') .nil (.bare (by decide +kernel)) <| .mark .nil rfl <|
    .word (s := "v") (c := ']') .nil (.bare (by decide +kernel)) <| .mark .nil rfl <|
    .mark (c := '[') hblank rfl <|
    .word (s := "Sub") (c := '=') .nil (.bare (by decide +kernel)) <| .mark .nil rfl <|
    .word (s := "d") (c := ']') .nil (.bare (by decide +kernel)) <| .mark .nil rfl <|
    .mark (c := '\x7b') .nil rfl <| .mark (c := '\x7d') .nil rfl <|
    .mark (c := '\x7d') hblank rfl <| .nil .nil
  refine ⟨_, htokens, ?_⟩
  exact Eq.mp (congrArg (Written _) (by decide +kernel)) hwritten

theorem compile_site :
    (compile {} siteText).result = .ok site ∧
      Diagnostic.ofSeverity .warning (compile {} siteText).diagnostics = [] :=
  compile_layout (by decide +kernel) site_layout
    ⟨by decide +kernel, by decide +kernel, by decide +kernel⟩

end ContainerMarkup
