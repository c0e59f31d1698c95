/-
ContainerMarkup/Proofs/Visits.lean

The tree that lines describe, as a walk sees it.  A walk makes the calls
that `Container.visits` lists (`Container.walk_eq_forM`), so what a visitor
sees of an assembled tree can be compared with the actions of the lines.

Main result: if lines with one outermost container assemble to a tree, the
calls before and after each container are the opening and closing actions of
the lines, in the same order and with the same names and defaults, and the
values of each container are the further pairs of its header and the values
given to it while it was the innermost open one, each exactly once
(`assembled_walk`).
-/
import ContainerMarkup.Proofs.Description
import ContainerMarkup.Tree.Walk
import Mathlib.Data.List.Forall2

namespace ContainerMarkup

open Source

/-! ### A walk and its calls -/

section Walk

variable {m : Type → Type} [Monad m] [LawfulMonad m]

mutual
theorem Container.walkAt_eq_forM (v : Visitor m) (p : Place) :
    (c : Container) → c.walkAt v p = forM (c.visitsAt p) v.call
  | ⟨name, default, values, children⟩ => by
    rw [Container.walkAt, Container.visitsAt, Container.walkAll_eq_forM v (p.inside name) children]
    simp [Visitor.call, List.forM_map]

theorem Container.walkAll_eq_forM (v : Visitor m) (p : Place) :
    (cs : List Container) → Container.walkAll v p cs = forM (Container.visitsAll p cs) v.call
  | [] => rfl
  | c :: rest => by
    rw [Container.walkAll, Container.visitsAll, Container.walkAt_eq_forM v p c,
      Container.walkAll_eq_forM v p rest, List.forM_append]
end

/-- A walk makes its calls one after the other. -/
theorem Container.walk_eq_forM (v : Visitor m) (c : Container) :
    c.walk v = forM c.visits v.call := c.walkAt_eq_forM v {}

end Walk

theorem run_forM_modify {σ α : Type} (f : σ → α → σ) (xs : List α) (s : σ) :
    StateT.run (forM xs fun x => (modify (f · x) : StateM σ Unit)) s = ((), xs.foldl f s) := by
  induction xs generalizing s with
  | nil => rfl
  | cons x xs ih =>
    rw [List.forM_cons, List.foldl_cons, ← ih]
    rfl

/-- A visitor that only changes a state takes it through the calls. -/
theorem Container.run_walk {σ : Type} {v : Visitor (StateM σ)} (f : σ → Visit → σ)
    (hv : ∀ visit, v.call visit = modify (f · visit)) (c : Container) (s : σ) :
    (c.walk v).run s = ((), c.visits.foldl f s) := by
  rw [Container.walk_eq_forM, funext hv, run_forM_modify]

/-- The visitor that writes down the calls. -/
def Visitor.recorder : Visitor (StateM (List Visit)) where
  enter c p := modify (· ++ [.enter c p])
  value name text p := modify (· ++ [.value name text p])
  leave c p := modify (· ++ [.leave c p])

theorem Visitor.recorder_call (visit : Visit) :
    Visitor.recorder.call visit = modify (· ++ [visit]) := by
  cases visit <;> rfl

/-- The calls of a walk over a tree. -/
def Container.calls (c : Container) : List Visit := ((c.walk Visitor.recorder).run []).2

theorem Container.calls_eq_visits (c : Container) : c.calls = c.visits := by
  rw [Container.calls, Container.run_walk (fun seen visit => seen ++ [visit]) Visitor.recorder_call]
  simp [List.foldl_append_eq_append, ← List.flatMap_def]

/-! ### Brackets -/

/-- The beginning or the end of a container, with its name and default. -/
inductive Bracket where
  | enter (name : String) (default : Option String)
  | leave (name : String) (default : Option String)
deriving DecidableEq, Repr

/-- A call at the beginning or the end of a container. -/
def Visit.bracket? : Visit → Option Bracket
  | .enter c _ => some (.enter c.name c.default)
  | .value _ _ _ => none
  | .leave c _ => some (.leave c.name c.default)

namespace Action

/-- The openings and closings of a word; each closing is that of the header
opened last, given the headers that are open, innermost first. -/
def brackets : List Group → List Action → List Bracket
  | _, [] => []
  | opened, .enter g :: as => .enter g.lead.name g.default? :: brackets (g :: opened) as
  | g :: opened, .leave :: as => .leave g.lead.name g.default? :: brackets opened as
  | [], .leave :: as => brackets [] as
  | opened, .value _ :: as => brackets opened as

/-- The headers that a word opens, each with the actions after it. -/
def headers : List Action → List (Group × List Action)
  | [] => []
  | .enter g :: as => (g, as) :: headers as
  | .leave :: as => headers as
  | .value _ :: as => headers as

end Action

/-- A container is what a header and the actions after it say: the name and
default of the header, its further pairs, and the values given to it until
it is closed, each exactly once. -/
structure Container.BuiltFrom (c : Container) (header : Group × List Action) : Prop where
  name : c.name = header.1.lead.name
  default : c.default = header.1.default?
  values : c.values.entries.Perm
    ((header.1.others ++ Action.own 0 header.2).map Attribute.entry)

/-! ### Descriptions and calls -/

variable {as : List Action} {vs : List Attribute} {cs : List Container}

theorem visitsAt_brackets (p : Place) (name : String) (default : Option String) (values : Values)
    (children : List Container) :
    (Container.visitsAt p ⟨name, default, values, children⟩).filterMap Visit.bracket? =
      .enter name default ::
        (Container.visitsAll (p.inside name) children).filterMap Visit.bracket? ++
          [.leave name default] := by
  have hvalues : (values.entries.map fun e => Visit.value e.name e.value (p.inside name)).filterMap
      Visit.bracket? = [] := by
    rw [List.filterMap_map, List.filterMap_eq_nil_iff]
    intro e _
    rfl
  rw [Container.visitsAt, List.filterMap_cons]
  simp only [Visit.bracket?, List.filterMap_append, hvalues]
  rfl

/-- The brackets of a description are those of its trees. -/
theorem Described.brackets_append (h : Described as vs cs) (p : Place) (opened : List Group)
    (after : List Action) :
    Action.brackets opened (as ++ after) =
      (Container.visitsAll p cs).filterMap Visit.bracket? ++ Action.brackets opened after := by
  induction h generalizing p opened after with
  | nil => rfl
  | value _ ih =>
    -- a value is no bracket, whatever is open
    rw [List.cons_append, ← ih p]
    cases opened <;> rfl
  | @child g inner as own vs kids cs values _ _ _ ihInner ihRest =>
    rw [List.cons_append, List.append_assoc, Action.brackets, ihInner (p.inside g.lead.name),
      List.cons_append, Action.brackets, ihRest p, Container.visitsAll, List.filterMap_append,
      visitsAt_brackets]
    simp

/-- What a description gives to the container around it. -/
theorem Described.own_append (h : Described as vs cs) (after : List Action) :
    Action.own 0 (as ++ after) = vs ++ Action.own 0 after ∧
      ∀ above, Action.own (above + 1) (as ++ after) = Action.own (above + 1) after := by
  induction h generalizing after with
  | nil => exact ⟨rfl, fun _ => rfl⟩
  | value _ ih =>
    obtain ⟨hown, habove⟩ := ih after
    refine ⟨?_, habove⟩
    rw [List.cons_append, Action.own, hown, List.cons_append]
  | @child g inner as own vs kids cs values _ _ _ ihInner ihRest =>
    obtain ⟨hown, habove⟩ := ihRest after
    -- inside the child, the container around it is one level further out
    constructor
    · rw [List.cons_append, List.append_assoc, Action.own, (ihInner _).2, List.cons_append,
        Action.own, hown]
    · intro above
      rw [List.cons_append, List.append_assoc, Action.own, (ihInner _).2, List.cons_append,
        Action.own, habove]

/-- The containers of a description, in order, are built from the headers it
opens. -/
theorem Described.builtFrom (h : Described as vs cs) (depth : Nat) (after : List Action) :
    ∃ opened, Action.headers (as ++ after) = opened ++ Action.headers after ∧
      List.Forall₂ Container.BuiltFrom ((Container.preorderAll depth cs).map Prod.snd) opened := by
  induction h generalizing depth after with
  | nil => exact ⟨[], rfl, .nil⟩
  | value _ ih => exact ih depth after
  | @child g inner as own vs kids cs values hinner hvalues _ ihInner ihRest =>
    obtain ⟨inside, hinside, hbuilt⟩ := ihInner (depth + 1) (.leave :: (as ++ after))
    obtain ⟨rest, hrest, hbuilt'⟩ := ihRest depth after
    -- the header of the child, those inside of it, those after it
    refine ⟨(g, inner ++ .leave :: (as ++ after)) :: (inside ++ rest), ?_, ?_⟩
    · rw [List.cons_append, List.append_assoc, List.cons_append, Action.headers, hinside,
        Action.headers, hrest, List.cons_append, List.append_assoc]
    · rw [Container.preorderAll, Container.preorder, List.cons_append, List.map_cons,
        List.map_append]
      refine .cons ⟨rfl, rfl, ?_⟩ (List.rel_append hbuilt hbuilt')
      show values.entries.Perm ((g.others ++ Action.own 0 (inner ++ .leave :: (as ++ after))).map
        Attribute.entry)
      rw [(hinner.own_append _).1, Action.own, List.append_nil]
      exact Values.insertAll_perm hvalues

/-- **The assembled tree is the one the actions describe.** -/
theorem assembled_walk {limits : Limits} {lines : List String} {root : Container}
    (h : (assemble limits lines).result = .ok root)
    (hone : Action.outermost 0 (actions lines) = 1) :
    root.calls.filterMap Visit.bracket? = Action.brackets [] (actions lines) ∧
      List.Forall₂ Container.BuiltFrom ((root.preorder 0).map Prod.snd)
        (Action.headers (actions lines)) := by
  obtain ⟨-, hrun, -⟩ := assemble_eq_ok_iff.1 h
  have hdesc : Described (actions lines) [] [root] := run_eq_some_iff_described.1 ⟨hrun, hone⟩
  constructor
  · have hbrackets := hdesc.brackets_append {} [] []
    rw [List.append_nil, Action.brackets, List.append_nil, Container.visitsAll,
      Container.visitsAll, List.append_nil] at hbrackets
    rw [Container.calls_eq_visits, hbrackets]
    rfl
  · obtain ⟨opened, hopened, hbuilt⟩ := hdesc.builtFrom 0 []
    rw [List.append_nil, Action.headers, List.append_nil] at hopened
    rw [Container.preorderAll, Container.preorderAll, List.append_nil] at hbuilt
    rw [hopened]
    exact hbuilt

/-- A value and a leaf in one line, then a child with braces. -/
theorem assembled_walk_leaf :
    let lines := ["[A:d,x=1]", "\x7b", "[y=2][B:p=1,q=2]", "[C]", "\x7b", "\x7d", "\x7d"]
    ∃ root, (assemble {} lines).result = .ok root ∧
      root.calls.filterMap Visit.bracket? =
        [.enter "A" (some "d"), .enter "B" none, .leave "B" none, .enter "C" none,
          .leave "C" none, .leave "A" (some "d")] := by
  intro lines
  have hroot : (assemble {} lines).result = .ok ⟨"A", some "d",
      (Values.empty.store ⟨"x", "1"⟩).store ⟨"y", "2"⟩,
      [⟨"B", none, (Values.empty.store ⟨"p", "1"⟩).store ⟨"q", "2"⟩, []⟩,
        ⟨"C", none, Values.empty, []⟩]⟩ := by
    decide +kernel
  have hwalk := assembled_walk hroot (by decide +kernel)
  exact ⟨_, hroot, hwalk.1.trans (by decide +kernel)⟩

end ContainerMarkup
