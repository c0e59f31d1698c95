/-
ContainerMarkup/Proofs/Acceptance.lean

Which lists of lines are accepted.  `Acceptable` states it without a stack,
a counter or a state:

* the braces balance;
* every opening line has a line before it that reads as a header;
* every group of a line of groups can be read, and a group of one pair
  stands only inside a container;
* the names that reach one container are distinct;
* no container is opened too deep, and not too many are opened.

Main result: lines assemble to some tree exactly if they are acceptable
(`exists_assemble_iff`).  The proof has two halves.  On actions, a draft
reaches its end exactly if the word is nested and the names fit, where each
open container is charged with the values still to come
(`exists_run_iff`).  On lines, nesting, depth and readability of the word
are conditions on single lines and the braces before them.
-/
import ContainerMarkup.Proofs.Compile
import ContainerMarkup.Proofs.Line
import Mathlib.Control.Monad.Basic

namespace ContainerMarkup

open Source

/-! ### Quantifying over places in a list -/

theorem forall_split_cons {α : Type} {P : List α → α → List α → Prop} {x : α} {xs : List α} :
    (∀ before y after, x :: xs = before ++ y :: after → P before y after) ↔
      P [] x xs ∧ ∀ before y after, xs = before ++ y :: after → P (x :: before) y after := by
  constructor
  · intro h
    refine ⟨h [] x xs rfl, fun before y after hxs => h (x :: before) y after ?_⟩
    rw [hxs, List.cons_append]
  · rintro ⟨hfirst, hrest⟩ before y after heq
    rcases before with - | ⟨z, before⟩
    · obtain ⟨rfl, rfl⟩ := List.cons.inj heq
      exact hfirst
    · obtain ⟨rfl, hxs⟩ := List.cons.inj heq
      exact hrest before y after hxs

theorem forall_getElem?_cons {α : Type} {P : Nat → α → Prop} {x : α} {xs : List α} :
    (∀ (i : Nat) (y : α), (x :: xs)[i]? = some y → P i y) ↔
      P 0 x ∧ ∀ (i : Nat) (y : α), xs[i]? = some y → P (i + 1) y := by
  constructor
  · intro h
    exact ⟨h 0 x rfl, fun i y hy => h (i + 1) y hy⟩
  · rintro ⟨hfirst, hrest⟩ i y hy
    rcases i with - | i
    · obtain rfl := Option.some.inj hy
      exact hfirst
    · exact hrest i y hy

/-! ### Words of actions -/

namespace Action

/-- A word that closes what is open and stays inside a container with its
values, when so many containers are open at its start. -/
def Nested : Nat → List Action → Prop
  | depth, [] => depth = 0
  | depth, .enter _ :: as => Nested (depth + 1) as
  | depth, .leave :: as => 0 < depth ∧ Nested (depth - 1) as
  | depth, .value _ :: as => 0 < depth ∧ Nested depth as

/-- The names that reach each container opened by a word are distinct. -/
def NamesFit (as : List Action) : Prop :=
  ∀ before g after, as = before ++ .enter g :: after →
    Distinct ((g.others ++ own 0 after).map Attribute.name)

theorem namesFit_cons {a : Action} {as : List Action} :
    NamesFit (a :: as) ↔
      (∀ g, a = .enter g → Distinct ((g.others ++ own 0 as).map Attribute.name)) ∧
        NamesFit as := by
  constructor
  · intro h
    refine ⟨fun g hg => h [] g as (by rw [hg, List.nil_append]), fun before g after has => ?_⟩
    exact h (a :: before) g after (by rw [has, List.cons_append])
  · rintro ⟨hfirst, hrest⟩ before g after heq
    rcases before with - | ⟨b, before⟩
    · obtain ⟨ha, rfl⟩ := List.cons.inj heq
      exact hfirst g ha
    · exact hrest before g after (List.cons.inj heq).2

theorem namesFit_enter {g : Group} {as : List Action} :
    NamesFit (.enter g :: as) ↔
      Distinct ((g.others ++ own 0 as).map Attribute.name) ∧ NamesFit as := by
  rw [namesFit_cons]
  simp only [enter.injEq, forall_eq']

theorem namesFit_other {a : Action} {as : List Action} (ha : a.isEnter = false) :
    NamesFit (a :: as) ↔ NamesFit as := by
  rw [namesFit_cons, and_iff_right]
  rintro g rfl
  cases ha

end Action

/-! ### Drafts that reach their end -/

namespace Draft

/-- The names of the open containers stay distinct if the values still to
come are added. -/
def StackFits (stack : List Container) (as : List Action) : Prop :=
  ∀ (i : Nat) (c : Container), stack[i]? = some c →
    Distinct (c.values.names ++ (Action.own i as).map Attribute.name)

theorem stackFits_nil (as : List Action) : StackFits [] as := by
  intro i c h
  cases h

theorem distinct_of_containerOf {g : Group} {c : Container} (h : Assembly.containerOf g = .ok c)
    (names : List String) :
    Distinct (c.values.names ++ names) ↔ Distinct (g.others.map Attribute.name ++ names) := by
  obtain ⟨values, hvalues, rfl⟩ := Assembly.containerOf_eq_ok_iff.1 h
  have hperm : values.names.Perm (g.others.map Attribute.name) :=
    Values.names_perm (v := Values.empty) (Values.insertAll_perm hvalues)
  exact Distinct.perm (hperm.append_right names)

theorem exists_containerOf {g : Group} (h : Distinct (g.others.map Attribute.name)) :
    ∃ c, Assembly.containerOf g = .ok c := by
  obtain ⟨values, hvalues⟩ := Values.exists_insertAll (v := Values.empty) h
  exact ⟨_, Assembly.containerOf_eq_ok_iff.2 ⟨values, hvalues, rfl⟩⟩

/-- Pushing a container asks for its names and leaves the other containers
one level further out. -/
theorem stackFits_push {d : Draft} {c : Container} {as : List Action} {g : Group} :
    StackFits (d.push c).stack as ↔
      Distinct (c.values.names ++ (Action.own 0 as).map Attribute.name) ∧
        StackFits d.stack (.enter g :: as) := by
  have hvalues : ∀ top, (if d.stack.isEmpty then { c with children := d.root.children } else c) =
      top → top.values = c.values := by
    rintro top rfl
    split <;> rfl
  show StackFits (_ :: d.stack) as ↔ _
  rw [StackFits, forall_getElem?_cons, hvalues _ rfl]
  rfl

theorem stackFits_leave {closed parent : Container} {rest : List Container} {as : List Action} :
    StackFits (closed :: parent :: rest) (.leave :: as) ↔
      StackFits (parent.addChild closed :: rest) as := by
  have hclosed : Distinct (closed.values.names ++ ([] : List Attribute).map Attribute.name) := by
    rw [List.map_nil, List.append_nil]
    exact closed.values.distinct_names
  rw [StackFits, forall_getElem?_cons, forall_getElem?_cons, StackFits, forall_getElem?_cons]
  exact and_iff_right hclosed

theorem stackFits_value {top : Container} {rest : List Container} {as : List Action}
    {a : Attribute} {values : Values} (h : top.values.insert a.name a.value = .ok values) :
    StackFits (top :: rest) (.value a :: as) ↔
      StackFits ({ top with values := values } :: rest) as := by
  obtain ⟨hnew, rfl⟩ := Values.insert_eq_ok_iff.1 h
  have hnames : (top.values.store a.entry).names.Perm (a.name :: top.values.names) :=
    (Values.store_perm (e := a.entry) hnew).map Entry.name
  rw [StackFits, forall_getElem?_cons, StackFits, forall_getElem?_cons]
  refine and_congr ?_ Iff.rfl
  have hmiddle : (top.values.names ++ (Action.own 0 (.value a :: as)).map Attribute.name).Perm
      ((top.values.store a.entry).names ++ (Action.own 0 as).map Attribute.name) :=
    List.perm_middle.trans (hnames.symm.append_right _)
  exact Distinct.perm hmiddle

theorem exists_insert_of_stackFits {top : Container} {rest : List Container} {as : List Action}
    {a : Attribute} (h : StackFits (top :: rest) (.value a :: as)) :
    ∃ values, top.values.insert a.name a.value = .ok values := by
  have hfirst : Distinct (top.values.names ++ a.name :: (Action.own 0 as).map Attribute.name) :=
    h 0 top rfl
  have hcons := (Distinct.perm List.perm_middle).1 hfirst
  refine ⟨_, Values.insert_eq_ok_iff.2 ⟨fun hmem => (List.nodup_cons.1 hcons).1 ?_, rfl⟩⟩
  rw [List.map_append]
  exact List.mem_append_left _ hmem

/-- **Reaching the end.**  A word takes a draft to a finished tree exactly if
it is nested, the names of each container it opens are distinct, and so are
those of each open container together with what the word adds to it. -/
theorem exists_run_iff {d : Draft} {as : List Action} :
    (∃ root, d.run as = some ⟨root, []⟩) ↔
      Action.Nested d.stack.length as ∧ Action.NamesFit as ∧ StackFits d.stack as := by
  induction as generalizing d with
  | nil =>
    obtain ⟨root, stack⟩ := d
    rcases stack with - | ⟨c, rest⟩
    · simp [Action.Nested, Action.NamesFit, stackFits_nil]
    · simp [Action.Nested]
  | cons a as ih =>
    simp only [run_cons, Option.bind_eq_some_iff]
    cases a with
    | enter g =>
      -- the new container is charged with the names in its header and to come
      rw [Action.Nested, Action.namesFit_enter, List.map_append]
      constructor
      · rintro ⟨root, e, he, hrun⟩
        obtain ⟨c, hc, rfl⟩ := act_enter_eq_some_iff.1 he
        obtain ⟨hnested, hnames, hstack⟩ := ih.1 ⟨root, hrun⟩
        obtain ⟨htop, hstack⟩ := (stackFits_push (g := g)).1 hstack
        exact ⟨hnested, ⟨(distinct_of_containerOf hc _).1 htop, hnames⟩, hstack⟩
      · rintro ⟨hnested, ⟨hfirst, hnames⟩, hstack⟩
        obtain ⟨c, hc⟩ := exists_containerOf hfirst.left
        have htop := (distinct_of_containerOf hc _).2 hfirst
        obtain ⟨root, hrun⟩ :=
          (ih (d := d.push c)).2 ⟨hnested, hnames, stackFits_push.2 ⟨htop, hstack⟩⟩
        exact ⟨root, d.push c, act_enter_eq_some_iff.2 ⟨c, hc, rfl⟩, hrun⟩
    | leave =>
      obtain ⟨root, stack⟩ := d
      rw [Action.Nested, Action.namesFit_other rfl]
      rcases stack with - | ⟨closed, - | ⟨parent, rest⟩⟩
      · simp [act]
      · -- the outermost container becomes the root
        have hclosed : StackFits [closed] (.leave :: as) := by
          rw [StackFits, forall_getElem?_cons]
          refine ⟨?_, stackFits_nil _⟩
          show Distinct (closed.values.names ++ [])
          rw [List.append_nil]
          exact closed.values.distinct_names
        have hact : act ⟨root, [closed]⟩ .leave = some ⟨closed, []⟩ := rfl
        simp only [hact, Option.some.injEq, exists_eq_left', List.length_singleton, ih]
        simp [stackFits_nil, hclosed]
      · -- a child joins its parent, whose values do not change
        have hact : act ⟨root, closed :: parent :: rest⟩ .leave =
            some ⟨root, parent.addChild closed :: rest⟩ := rfl
        simp only [hact, Option.some.injEq, exists_eq_left', stackFits_leave, ih]
        simp
    | value a =>
      -- a name moves from those to come to those that are there
      rw [Action.Nested, Action.namesFit_other rfl]
      constructor
      · rintro ⟨root, e, he, hrun⟩
        obtain ⟨top, rest, values, hstack, hinsert, rfl⟩ := act_value_eq_some_iff.1 he
        obtain ⟨hnested, hnames, hfits⟩ := ih.1 ⟨root, hrun⟩
        rw [hstack]
        exact ⟨⟨Nat.succ_pos _, hnested⟩, hnames, (stackFits_value hinsert).2 hfits⟩
      · rintro ⟨⟨hpos, hnested⟩, hnames, hfits⟩
        obtain ⟨root, stack⟩ := d
        rcases stack with - | ⟨top, rest⟩
        · cases hpos
        · obtain ⟨values, hinsert⟩ := exists_insert_of_stackFits hfits
          obtain ⟨final, hrun⟩ := (ih (d := ⟨root, { top with values := values } :: rest⟩)).2
            ⟨hnested, hnames, (stackFits_value hinsert).1 hfits⟩
          exact ⟨final, _, act_value_eq_some_iff.2 ⟨top, rest, values, rfl, hinsert, rfl⟩, hrun⟩

end Draft

/-! ### Groups of a line -/

/-- A line that opens a container: the opening line, or a line with a group
of several pairs. -/
def Opens (line : String) (next : Option String) : Prop :=
  line = opener ∨
    IsBody line next ∧ ∃ piece ∈ Assembly.groupsOf line, ∃ g,
      Group.read false piece = .ok g ∧ g.others ≠ []

namespace Action

variable {depth limit : Nat} {as : List Action} {g : Group} {pieces : List String}

theorem depthAfter_group (g : Group) : depthAfter depth g.actions = depth := by
  unfold Group.actions
  split <;> rfl

theorem nested_group_append :
    Nested depth (g.actions ++ as) ↔ (g.others = [] → 0 < depth) ∧ Nested depth as := by
  unfold Group.actions
  rcases g.others with - | ⟨a, others⟩ <;> simp [Nested]

theorem peak_group_le_iff :
    peak depth g.actions ≤ limit ↔ depth ≤ limit ∧ (g.others ≠ [] → depth < limit) := by
  unfold Group.actions
  rcases g.others with - | ⟨a, others⟩
  · simp [peak, level]
  · simp [peak, level]
    omega

theorem depthAfter_pieces (pieces : List String) :
    depthAfter depth (pieces.flatMap pieceActions) = depth := by
  induction pieces with
  | nil => rfl
  | cons piece pieces ih =>
    rw [List.flatMap_cons, depthAfter_append]
    unfold pieceActions
    rcases Group.read false piece with f | g
    · exact ih
    · show depthAfter (depthAfter depth g.actions) _ = depth
      rw [depthAfter_group]
      exact ih

theorem nested_pieces_append (hread : ∀ piece ∈ pieces, ∃ g, Group.read false piece = .ok g) :
    Nested depth (pieces.flatMap pieceActions ++ as) ↔
      (∀ piece ∈ pieces, ∀ g, Group.read false piece = .ok g → g.others = [] → 0 < depth) ∧
        Nested depth as := by
  induction pieces with
  | nil => simp
  | cons piece pieces ih =>
    obtain ⟨⟨g, hg⟩, hrest⟩ := List.forall_mem_cons.1 hread
    have hpiece : pieceActions piece = g.actions := by rw [pieceActions, hg]
    rw [List.flatMap_cons, List.append_assoc, hpiece, nested_group_append, ih hrest,
      List.forall_mem_cons, ← and_assoc]
    simp [hg]

theorem peak_pieces_le_iff (hread : ∀ piece ∈ pieces, ∃ g, Group.read false piece = .ok g) :
    peak depth (pieces.flatMap pieceActions) ≤ limit ↔
      depth ≤ limit ∧
        ∀ piece ∈ pieces, ∀ g, Group.read false piece = .ok g → g.others ≠ [] → depth < limit := by
  induction pieces with
  | nil => simp [peak]
  | cons piece pieces ih =>
    obtain ⟨⟨g, hg⟩, hrest⟩ := List.forall_mem_cons.1 hread
    have hpiece : pieceActions piece = g.actions := by rw [pieceActions, hg]
    rw [List.flatMap_cons, peak_append, hpiece, depthAfter_group, Nat.max_le, peak_group_le_iff,
      ih hrest, List.forall_mem_cons]
    simp only [hg, Except.ok.injEq, forall_eq']
    constructor
    · rintro ⟨⟨hle, hfirst⟩, -, hothers⟩
      exact ⟨hle, hfirst, hothers⟩
    · rintro ⟨hle, hfirst, hothers⟩
      exact ⟨⟨hle, hfirst⟩, hle, hothers⟩

end Action

/-! ### Conditions on lines -/

theorem readable_iff {previous : Option String} {lines : List String} :
    Readable previous lines ↔
      ∀ before line after, lines = before ++ line :: after →
        LineReadable (before.getLast?.or previous) line after.head? := by
  induction lines generalizing previous with
  | nil => simp [Readable]
  | cons line rest ih =>
    have hlast : ∀ before : List String,
        (line :: before).getLast?.or previous = before.getLast?.or (some line) := by
      intro before
      rw [List.getLast?_cons]
      rcases before.getLast? with - | x <;> rfl
    rw [Readable, ih, forall_split_cons]
    simp [hlast]

/-- Groups of one pair stand inside a container, when so many are open
before the lines. -/
def ValuesInside (depth : Nat) (lines : List String) : Prop :=
  ∀ before line after, lines = before ++ line :: after → IsBody line after.head? →
    ∀ piece ∈ Assembly.groupsOf line, ∀ g, Group.read false piece = .ok g → g.others = [] →
      before.count closer < depth + before.count opener

/-- Containers are opened where fewer than `limit` are open, when so many are
open before the lines. -/
def OpeningsBelow (limit depth : Nat) (lines : List String) : Prop :=
  ∀ before line after, lines = before ++ line :: after → Opens line after.head? →
    depth + before.count opener < limit + before.count closer

theorem count_opener_cons (before : List String) :
    (opener :: before).count opener = before.count opener + 1 ∧
      (opener :: before).count closer = before.count closer := by
  simp [opener_ne_closer]

theorem count_closer_cons (before : List String) :
    (closer :: before).count opener = before.count opener ∧
      (closer :: before).count closer = before.count closer + 1 := by
  simp [opener_ne_closer.symm]

theorem count_other_cons {line : String} (hopen : line ≠ opener) (hclose : line ≠ closer)
    (before : List String) :
    (line :: before).count opener = before.count opener ∧
      (line :: before).count closer = before.count closer := by
  simp [hopen, hclose]

theorem nested_actionsAfter_iff {previous : Option String} {depth : Nat} {lines : List String}
    (hread : Readable previous lines) :
    Action.Nested depth (actionsAfter previous lines) ↔
      BalancedFrom opener closer depth lines ∧ ValuesInside depth lines := by
  induction lines generalizing previous depth with
  | nil => simp [actionsAfter, Action.Nested, balancedFrom_nil, ValuesInside]
  | cons line rest ih =>
    obtain ⟨hline, hrest⟩ := hread
    rw [ValuesInside, forall_split_cons]
    rcases line_cases line rest.head? with rfl | rfl | hbody | ⟨hopen, hclose, hbody⟩
    · -- the opening line holds no group, and the rest is one level deeper
      obtain ⟨text, g, rfl, hg⟩ := hline.header rfl
      rw [actionsAfter_opener hg, Action.Nested, ih hrest, balancedFrom_opening opener_ne_closer]
      refine and_congr_right fun _ => ?_
      rw [and_iff_right fun hb => absurd rfl hb.1, ValuesInside]
      simp only [(count_opener_cons _).1, (count_opener_cons _).2, Nat.add_assoc, Nat.add_comm 1]
    · rw [actionsAfter_closer, Action.Nested, ih hrest, balancedFrom_closing opener_ne_closer,
        and_assoc]
      refine and_congr_right fun hpos => and_congr_right fun _ => ?_
      have harith : ∀ m n : Nat, m < depth - 1 + n ↔ m + 1 < depth + n := by omega
      rw [and_iff_right fun hb => absurd rfl hb.2.1, ValuesInside]
      simp only [(count_closer_cons _).1, (count_closer_cons _).2, harith]
    · -- a line of groups asks for a container around its values
      have hcount := count_other_cons hbody.1 hbody.2.1
      rw [actionsAfter_body hbody, Action.nested_pieces_append (hline.body hbody), ih hrest,
        balancedFrom_other hbody.1 hbody.2.1, ValuesInside]
      simp only [(hcount _).1, (hcount _).2, List.count_nil, Nat.add_zero, hbody, forall_const]
      exact and_left_comm
    · have hcount := count_other_cons hopen hclose
      rw [actionsAfter_other hopen hclose hbody, ih hrest, balancedFrom_other hopen hclose,
        and_iff_right fun hb => absurd hb hbody, ValuesInside]
      simp only [(hcount _).1, (hcount _).2]

theorem peak_actionsAfter_le_iff {previous : Option String} {limit depth : Nat}
    {lines : List String} (hread : Readable previous lines)
    (hbalanced : BalancedFrom opener closer depth lines) (hdepth : depth ≤ limit) :
    Action.peak depth (actionsAfter previous lines) ≤ limit ↔ OpeningsBelow limit depth lines := by
  induction lines generalizing previous depth with
  | nil => simp [actionsAfter, Action.peak, hdepth, OpeningsBelow]
  | cons line rest ih =>
    obtain ⟨hline, hrest⟩ := hread
    rw [OpeningsBelow, forall_split_cons]
    rcases line_cases line rest.head? with rfl | rfl | hbody | ⟨hopen, hclose, hbody⟩
    · obtain ⟨text, g, rfl, hg⟩ := hline.header rfl
      rw [balancedFrom_opening opener_ne_closer] at hbalanced
      have hopens : Opens opener rest.head? := .inl rfl
      rw [actionsAfter_opener hg, Action.peak, Nat.max_le, and_iff_right hdepth, Action.level]
      simp only [(count_opener_cons _).1, (count_opener_cons _).2, List.count_nil, Nat.add_zero,
        hopens, forall_const]
      -- the header itself reaches one level more than what is open
      constructor
      · intro h
        have hlt : depth + 1 ≤ limit := Nat.le_trans (Action.le_peak _ _) h
        refine ⟨hlt, fun before line after heq ho => ?_⟩
        have := (ih hrest hbalanced hlt).1 h before line after heq ho
        omega
      · rintro ⟨hlt, h⟩
        refine (ih hrest hbalanced hlt).2 fun before line after heq ho => ?_
        have := h before line after heq ho
        omega
    · rw [balancedFrom_closing opener_ne_closer] at hbalanced
      have hopens : ¬ Opens closer rest.head? := by
        rintro (h | ⟨hb, -⟩)
        · exact opener_ne_closer h.symm
        · exact hb.2.1 rfl
      have harith : ∀ m n : Nat, depth + m < limit + (n + 1) ↔ depth - 1 + m < limit + n := by
        intro m n
        omega
      rw [actionsAfter_closer, Action.peak, Nat.max_le, and_iff_right hdepth, Action.level,
        ih hrest hbalanced.2 (by omega), and_iff_right fun ho => absurd ho hopens, OpeningsBelow]
      simp only [(count_closer_cons _).1, (count_closer_cons _).2, harith]
    · -- the groups of a line open and close, so they meet the same depth
      have hcount := count_other_cons hbody.1 hbody.2.1
      rw [balancedFrom_other hbody.1 hbody.2.1] at hbalanced
      rw [actionsAfter_body hbody, Action.peak_append, Nat.max_le, Action.depthAfter_pieces,
        Action.peak_pieces_le_iff (hline.body hbody), and_iff_right hdepth,
        ih hrest hbalanced hdepth, OpeningsBelow]
      simp only [(hcount _).1, (hcount _).2, List.count_nil, Nat.add_zero, Opens, hbody.1,
        false_or, hbody, true_and]
      refine and_congr_left fun _ => ?_
      constructor
      · rintro h ⟨piece, hmem, g, hg, hne⟩
        exact h piece hmem g hg hne
      · intro h piece hmem g hg hne
        exact h ⟨piece, hmem, g, hg, hne⟩
    · have hcount := count_other_cons hopen hclose
      have hopens : ¬ Opens line rest.head? := by
        rintro (h | ⟨hb, -⟩)
        · exact hopen h
        · exact hbody hb
      rw [balancedFrom_other hopen hclose] at hbalanced
      rw [actionsAfter_other hopen hclose hbody, ih hrest hbalanced hdepth,
        and_iff_right fun ho => absurd ho hopens, OpeningsBelow]
      simp only [(hcount _).1, (hcount _).2]

/-! ### The criterion -/

/-- How many containers the braces of some lines leave open. -/
def braceDepth (before : List String) : Nat := before.count opener - before.count closer

/-- When a list of lines is accepted. -/
structure Acceptable (limits : Limits) (lines : List String) : Prop where
  /-- The braces balance. -/
  balanced : Balanced opener closer lines
  /-- Every opening line has a line before it, which reads as a header. -/
  headers : ∀ before after, lines = before ++ opener :: after →
    ∃ header g, before.getLast? = some header ∧ Group.read true header = .ok g
  /-- Every group of a line of groups can be read, and a group of one pair
  stands inside a container. -/
  groups : ∀ before line after, lines = before ++ line :: after → IsBody line after.head? →
    ∀ piece ∈ Assembly.groupsOf line, ∃ g, Group.read false piece = .ok g ∧
      (g.others = [] → 1 ≤ braceDepth before)
  /-- For each container opened, the names in its header after the first and
  those of the values given to it while it is the innermost one are
  distinct. -/
  names : ∀ before g after, actions lines = before ++ .enter g :: after →
    Distinct ((g.others ++ Action.own 0 after).map Attribute.name)
  /-- No container is opened too deep. -/
  depth : ∀ before line after, lines = before ++ line :: after → Opens line after.head? →
    braceDepth before < limits.depth
  /-- Not too many containers are opened. -/
  number : Action.openings (actions lines) ≤ limits.containers

theorem readable_iff_headers_groups {lines : List String} :
    Readable none lines ↔
      (∀ before after, lines = before ++ opener :: after →
        ∃ header g, before.getLast? = some header ∧ Group.read true header = .ok g) ∧
      ∀ before line after, lines = before ++ line :: after → IsBody line after.head? →
        ∀ piece ∈ Assembly.groupsOf line, ∃ g, Group.read false piece = .ok g := by
  simp only [readable_iff, Option.or_none]
  constructor
  · intro h
    refine ⟨fun before after heq => (h before opener after heq).header rfl, ?_⟩
    exact fun before line after heq hbody => (h before line after heq).body hbody
  · rintro ⟨hheaders, hgroups⟩ before line after heq
    refine ⟨?_, hgroups before line after heq⟩
    rintro rfl
    exact hheaders before after heq

theorem valuesInside_iff {lines : List String} :
    ValuesInside 0 lines ↔
      ∀ before line after, lines = before ++ line :: after → IsBody line after.head? →
        ∀ piece ∈ Assembly.groupsOf line, ∀ g, Group.read false piece = .ok g → g.others = [] →
          1 ≤ braceDepth before := by
  have harith : ∀ before : List String,
      before.count closer < 0 + before.count opener ↔ 1 ≤ braceDepth before := by
    intro before
    unfold braceDepth
    omega
  simp only [ValuesInside, harith]

/-- In a balanced word the depth before a place is below a limit exactly if
the openings are outweighed by the limit and the closings. -/
theorem openingsBelow_iff {limit : Nat} {lines : List String}
    (hbalanced : Balanced opener closer lines) :
    OpeningsBelow limit 0 lines ↔
      ∀ before line after, lines = before ++ line :: after → Opens line after.head? →
        braceDepth before < limit := by
  have harith : ∀ before line after, lines = before ++ line :: after →
      (0 + before.count opener < limit + before.count closer ↔ braceDepth before < limit) := by
    intro before line after heq
    have hbelow := hbalanced.never_below before ⟨line :: after, heq.symm⟩
    unfold braceDepth
    omega
  constructor
  · intro h before line after heq hopens
    exact (harith before line after heq).1 (h before line after heq hopens)
  · intro h before line after heq hopens
    exact (harith before line after heq).2 (h before line after heq hopens)

/-- A list of lines assembles to some tree exactly if it is acceptable. -/
theorem exists_assemble_iff (limits : Limits) (lines : List String) :
    (∃ root, (assemble limits lines).result = .ok root) ↔ Acceptable limits lines := by
  have hrun : (∃ root, ({} : Draft).run (actions lines) = some ⟨root, []⟩) ↔
      Action.Nested 0 (actions lines) ∧ Action.NamesFit (actions lines) := by
    rw [Draft.exists_run_iff]
    exact and_congr_right fun _ => and_iff_left (Draft.stackFits_nil _)
  simp only [assemble_eq_ok_iff]
  constructor
  · rintro ⟨root, hread, hroot, hdepth, hnumber⟩
    obtain ⟨hnested, hnames⟩ := hrun.1 ⟨root, hroot⟩
    obtain ⟨hbalanced, hinside⟩ := (nested_actionsAfter_iff hread).1 hnested
    obtain ⟨hheaders, hgroups⟩ := readable_iff_headers_groups.1 hread
    have hbelow := (peak_actionsAfter_le_iff hread hbalanced (Nat.zero_le _)).1 hdepth
    refine ⟨hbalanced, hheaders, ?_, hnames, (openingsBelow_iff hbalanced).1 hbelow, hnumber⟩
    intro before line after heq hbody piece hmem
    obtain ⟨g, hg⟩ := hgroups before line after heq hbody piece hmem
    exact ⟨g, hg, valuesInside_iff.1 hinside before line after heq hbody piece hmem g hg⟩
  · intro h
    have hread : Readable none lines := by
      refine readable_iff_headers_groups.2 ⟨h.headers, ?_⟩
      intro before line after heq hbody piece hmem
      obtain ⟨g, hg, -⟩ := h.groups before line after heq hbody piece hmem
      exact ⟨g, hg⟩
    have hinside : ValuesInside 0 lines := by
      refine valuesInside_iff.2 fun before line after heq hbody piece hmem g hg => ?_
      obtain ⟨g', hg', hdepth⟩ := h.groups before line after heq hbody piece hmem
      rw [hg] at hg'
      exact Except.ok.inj hg' ▸ hdepth
    have hnested := (nested_actionsAfter_iff hread).2 ⟨h.balanced, hinside⟩
    obtain ⟨root, hroot⟩ := hrun.2 ⟨hnested, h.names⟩
    have hbelow := (openingsBelow_iff h.balanced).2 h.depth
    exact ⟨root, hread, hroot,
      (peak_actionsAfter_le_iff hread h.balanced (Nat.zero_le _)).2 hbelow, h.number⟩

/-- **Acceptance.**  Lines assemble to a tree exactly if they are acceptable.
In particular, a text whose braces do not balance once it is condensed never
compiles. -/
theorem acceptance :
    (∀ (limits : Limits) (lines : List String),
      (∃ root, (assemble limits lines).result = .ok root) ↔ Acceptable limits lines) ∧
    ∀ (options : Options) (text : String),
      ¬ Balanced '\x7b' '\x7d' (condense text).text.toList →
        ∃ f, (compile options text).result = .error f := by
  refine ⟨exists_assemble_iff, fun options text hunbalanced => ?_⟩
  rcases h : (compile options text).result with f | root
  · exact ⟨f, rfl⟩
  · obtain ⟨-, hroot⟩ := compile_eq_ok_iff.1 h
    have hbalanced := ((exists_assemble_iff _ _).1 ⟨root, hroot⟩).balanced
    rw [sourceLines] at hbalanced
    exact absurd ((balanced_lines_iff _).1 hbalanced) hunbalanced

/-- A container with values is acceptable, and a text with a brace too few
does not compile. -/
theorem acceptance_unclosed :
    Acceptable {} ["[A:x=1,y=2]", "\x7b", "[z=3]", "\x7d"] ∧
      ¬ Balanced '\x7b' '\x7d' (condense "[A]\x7b[B]\x7b\x7d").text.toList ∧
      ∃ f, (compile {} "[A]\x7b[B]\x7b\x7d").result = .error f := by
  have hroot : (assemble {} ["[A:x=1,y=2]", "\x7b", "[z=3]", "\x7d"]).result = .ok ⟨"A", none,
      ((Values.empty.store ⟨"x", "1"⟩).store ⟨"y", "2"⟩).store ⟨"z", "3"⟩, []⟩ := by
    decide +kernel
  have hunbalanced : ¬ Balanced '\x7b' '\x7d' (condense "[A]\x7b[B]\x7b\x7d").text.toList := by
    intro h
    have hclosed := h.all_closed
    revert hclosed
    decide +kernel
  exact ⟨(acceptance.1 _ _).1 ⟨_, hroot⟩, hunbalanced, acceptance.2 {} _ hunbalanced⟩

end ContainerMarkup
