/-
ContainerMarkup/Proofs/Traversal.lean

A walk with a visitor that may fail.  Such a visitor keeps a state, which
goes on through a failure, and each of its calls may end in an error.

`Container.moments` lists the calls that a walk has to make without the
places that the walk computes: each moment comes with the containers around
it, from the root down.  `MadeAt` says when a call is the one for a moment,
and in particular what its place has to be.

`Visitor.watched` is a visitor that writes down its calls.  What it writes
down in a walk are the calls that the walk makes.

Main result: a walk makes the calls for the moments of the tree, in order,
and none after the first that fails; it fails with the error of that call,
and succeeds if there is none (`Container.walk_calls`).
-/
import ContainerMarkup.Proofs.Visits
import Mathlib.Data.List.Chain

namespace ContainerMarkup

/-! ### Moments -/

/-- A point of a walk at a container, given the containers around that
container, the root first. -/
inductive Moment where
  | enter (above : List Container) (c : Container)
  | value (above : List Container) (c : Container) (e : Entry)
  | leave (above : List Container) (c : Container)

/-- The container of a moment behind those around it. -/
def Moment.lineage : Moment → List Container
  | .enter above c => above ++ [c]
  | .value above c _ => above ++ [c]
  | .leave above c => above ++ [c]

mutual
/-- The moments of a tree: the beginning of its root, the values, the moments
of the children, the end. -/
def Container.moments (above : List Container) : Container → List Moment
  | ⟨name, default, values, children⟩ =>
    let c : Container := ⟨name, default, values, children⟩
    .enter above c :: (values.entries.map (.value above c) ++
      (Container.momentsAll (above ++ [c]) children ++ [.leave above c]))

/-- The moments of several trees with the same containers around them. -/
def Container.momentsAll (above : List Container) : List Container → List Moment
  | [] => []
  | c :: rest => Container.moments above c ++ Container.momentsAll above rest
end

/-- A lineage: the root of a tree, one of its children, and so on. -/
structure Container.IsLineage (root : Container) (cs : List Container) : Prop where
  head : cs.head? = some root
  chain : cs.IsChain fun parent child => child ∈ parent.children

theorem Container.IsLineage.push {root parent child : Container} {above : List Container}
    (h : root.IsLineage (above ++ [parent])) (hchild : child ∈ parent.children) :
    root.IsLineage (above ++ [parent] ++ [child]) := by
  constructor
  · rw [List.head?_append, h.head]
    rfl
  · refine List.isChain_append.2 ⟨h.chain, List.isChain_singleton child, ?_⟩
    simpa using hchild

mutual
theorem Container.moments_lineage {root : Container} : (c : Container) → (above : List Container) →
    root.IsLineage (above ++ [c]) → ∀ m ∈ c.moments above, root.IsLineage m.lineage
  | ⟨name, default, values, children⟩, above, h => by
    rw [Container.moments]
    intro m hm
    simp only [List.mem_cons, List.mem_append, List.mem_map, List.not_mem_nil, or_false] at hm
    rcases hm with rfl | ⟨e, -, rfl⟩ | hm | rfl
    · exact h
    · exact h
    · exact Container.momentsAll_lineage children _ (fun child hchild => h.push hchild) m hm
    · exact h

theorem Container.momentsAll_lineage {root : Container} : (cs : List Container) →
    (above : List Container) → (∀ c ∈ cs, root.IsLineage (above ++ [c])) →
      ∀ m ∈ Container.momentsAll above cs, root.IsLineage m.lineage
  | [], above, h => by simp [Container.momentsAll]
  | c :: rest, above, h => by
    obtain ⟨hc, hrest⟩ := List.forall_mem_cons.1 h
    rw [Container.momentsAll, List.forall_mem_append]
    exact ⟨Container.moments_lineage c above hc, Container.momentsAll_lineage rest above hrest⟩
end

/-! ### Calls and moments -/

/-- A place tells its depth right and has the names of some containers, the
root first. -/
structure Place.Under (p : Place) (cs : List Container) : Prop where
  depth : p.depth = p.path.length
  path : p.path = cs.map Container.name

theorem Place.Under.inside {p : Place} {above : List Container} (h : p.Under above)
    (c : Container) : (p.inside c.name).Under (above ++ [c]) := by
  constructor
  · rw [Place.path_inside, List.length_append, ← h.depth]
    rfl
  · rw [Place.path_inside, h.path, List.map_append]
    rfl

/-- The call for a moment.  A container begins and ends in the ones around
it; its values are in the container itself. -/
inductive MadeAt : Visit → Moment → Prop
  | enter {p : Place} {above : List Container} {c : Container} :
      p.Under above → MadeAt (.enter c p) (.enter above c)
  | value {p : Place} {above : List Container} {c : Container} {e : Entry} :
      p.Under (above ++ [c]) → MadeAt (.value e.name e.value p) (.value above c e)
  | leave {p : Place} {above : List Container} {c : Container} :
      p.Under above → MadeAt (.leave c p) (.leave above c)

mutual
theorem Container.visitsAt_moments : (c : Container) → {p : Place} → {above : List Container} →
    p.Under above → List.Forall₂ MadeAt (c.visitsAt p) (c.moments above)
  | ⟨name, default, values, children⟩, p, above, h => by
    have hinside := h.inside ⟨name, default, values, children⟩
    rw [Container.visitsAt, Container.moments]
    refine .cons (.enter h) (List.rel_append ?_ (List.rel_append ?_ (.cons (.leave h) .nil)))
    · rw [List.forall₂_map_left_iff, List.forall₂_map_right_iff, List.forall₂_same]
      exact fun e _ => .value hinside
    · exact Container.visitsAll_moments children hinside

theorem Container.visitsAll_moments : (cs : List Container) → {p : Place} →
    {above : List Container} → p.Under above →
      List.Forall₂ MadeAt (Container.visitsAll p cs) (Container.momentsAll above cs)
  | [], _, _, _ => by
    rw [Container.visitsAll, Container.momentsAll]
    exact .nil
  | c :: rest, _, _, h => by
    rw [Container.visitsAll, Container.momentsAll]
    exact List.rel_append (Container.visitsAt_moments c h) (Container.visitsAll_moments rest h)
end

/-! ### Runs of calls -/

variable {σ ε : Type}

namespace Visitor

/-- Make a call and write it down, whether it fails or not. -/
def watch (v : Visitor (ExceptT ε (StateM σ))) (visit : Visit) :
    ExceptT ε (StateM (σ × List Visit)) Unit :=
  ExceptT.mk fun (s, seen) =>
    let (result, s') := (v.call visit).run.run s
    (result, s', seen ++ [visit])

/-- The visitor that writes down its calls. -/
def watched (v : Visitor (ExceptT ε (StateM σ))) :
    Visitor (ExceptT ε (StateM (σ × List Visit))) where
  enter c p := v.watch (.enter c p)
  value name text p := v.watch (.value name text p)
  leave c p := v.watch (.leave c p)

theorem watched_call (v : Visitor (ExceptT ε (StateM σ))) (visit : Visit) :
    v.watched.call visit = v.watch visit := by
  cases visit <;> rfl

/-- Calls that succeed, one after the other, from a state to a state. -/
inductive Succeeds (v : Visitor (ExceptT ε (StateM σ))) : List Visit → σ → σ → Prop
  | nil {s : σ} : Succeeds v [] s s
  | cons {visit : Visit} {visits : List Visit} {s s' s'' : σ} :
      (v.call visit).run.run s = (.ok (), s') → Succeeds v visits s' s'' →
        Succeeds v (visit :: visits) s s''

/-- How calls turn out from a state: those that are made and those that are
not, the result, and the state at the end. -/
inductive Outcome (v : Visitor (ExceptT ε (StateM σ))) (s : σ) :
    List Visit → List Visit → Except ε Unit → σ → Prop
  /-- All calls are made and none fails. -/
  | finished {visits : List Visit} {s' : σ} : v.Succeeds visits s s' →
      Outcome v s visits [] (.ok ()) s'
  /-- A call fails after others that do not, and is the last. -/
  | stopped {before after : List Visit} {visit : Visit} {e : ε} {s' s'' : σ} :
      v.Succeeds before s s' → (v.call visit).run.run s' = (.error e, s'') →
        Outcome v s (before ++ [visit]) after (.error e) s''

variable {v : Visitor (ExceptT ε (StateM σ))} {visit : Visit} {made rest visits : List Visit}
  {result : Except ε Unit} {s s' s'' : σ} {e : ε}

theorem Outcome.cons (hcall : (v.call visit).run.run s = (.ok (), s'))
    (h : v.Outcome s' made rest result s'') : v.Outcome s (visit :: made) rest result s'' := by
  cases h with
  | finished hall => exact .finished (.cons hcall hall)
  | stopped hbefore hfails => exact .stopped (.cons hcall hbefore) hfails

/-- A call fails or succeeds in one way only. -/
theorem Succeeds.not_stopped {before after : List Visit}
    (h : v.Succeeds (before ++ visit :: after) s s'') (hbefore : v.Succeeds before s s')
    (hfails : ((v.call visit).run.run s').1 = .error e) : False := by
  induction hbefore with
  | nil =>
    cases h with
    | cons hcall _ =>
      rw [hcall] at hfails
      cases hfails
  | cons hcall _ ih =>
    cases h with
    | cons hcall' hrest =>
      -- the same call from the same state, so the rest starts from one state, too
      obtain rfl := (Prod.mk.inj (hcall.symm.trans hcall')).2
      exact ih hrest hfails

theorem Outcome.ok_iff (h : v.Outcome s made rest result s') :
    result = .ok () ↔ ∃ s'', v.Succeeds (made ++ rest) s s'' := by
  cases h with
  | finished hall => exact iff_of_true rfl ⟨s', by rwa [List.append_nil]⟩
  | @stopped before after visit e s₁ _ hbefore hfails =>
    refine iff_of_false nofun ?_
    rintro ⟨s'', hall⟩
    rw [List.append_assoc] at hall
    exact hall.not_stopped hbefore (congrArg Prod.fst hfails)

/-- One call: the rest follows if it succeeds. -/
theorem run_forM_cons (f : Visit → ExceptT ε (StateM σ) Unit) (s : σ) :
    (forM (visit :: visits) f).run.run s = match (f visit).run.run s with
      | (.ok (), s') => (forM visits f).run.run s'
      | (.error e, s') => (.error e, s') := by
  rw [List.forM_cons, ExceptT.run_bind, StateT.run_bind]
  rcases (f visit).run.run s with ⟨- | -, s'⟩
  · rfl
  · rfl

/-- Calls are made up to the first that fails, watched or not. -/
theorem run_forM_call (v : Visitor (ExceptT ε (StateM σ))) (visits seen : List Visit) (s : σ) :
    ∃ made rest result s', visits = made ++ rest ∧
      (forM visits v.call).run.run s = (result, s') ∧
      (forM visits v.watched.call).run.run (s, seen) = (result, s', seen ++ made) ∧
      v.Outcome s made rest result s' := by
  induction visits generalizing s seen with
  | nil => exact ⟨[], [], .ok (), s, rfl, rfl, by rw [List.append_nil]; rfl, .finished .nil⟩
  | cons visit visits ih =>
    have hwatch : (v.watched.call visit).run.run (s, seen) =
        (((v.call visit).run.run s).1, ((v.call visit).run.run s).2, seen ++ [visit]) := by
      rw [watched_call]
      rfl
    rw [run_forM_cons, run_forM_cons, hwatch]
    rcases hcall : (v.call visit).run.run s with ⟨e | ⟨⟩, s'⟩
    · -- the failing call is still written down, and nothing after it
      exact ⟨[visit], visits, .error e, s', rfl, rfl, rfl, .stopped .nil hcall⟩
    · obtain ⟨made, rest, result, s'', rfl, hrun, hwatched, houtcome⟩ := ih (seen ++ [visit]) s'
      refine ⟨visit :: made, rest, result, s'', rfl, hrun, ?_, houtcome.cons hcall⟩
      rw [List.append_assoc] at hwatched
      exact hwatched

end Visitor

/-! ### Walks -/

/-- **Calls of a walk.**  For every tree and every visitor with a state whose
calls may fail, a walk makes the calls for the moments of the tree up to the
first that fails, which gives the result, or all of them.  It succeeds exactly
if none of them fails.  The containers of a moment are a lineage of the
tree. -/
theorem Container.walk_calls (v : Visitor (ExceptT ε (StateM σ))) (root : Container) (s : σ) :
    ∃ made rest result s',
      (root.walk v).run.run s = (result, s') ∧
      (root.walk v.watched).run.run (s, []) = (result, s', made) ∧
      List.Forall₂ MadeAt (made ++ rest) (root.moments []) ∧
      v.Outcome s made rest result s' ∧
      (result = .ok () ↔ ∃ s'', v.Succeeds (made ++ rest) s s'') ∧
      ∀ m ∈ root.moments [], root.IsLineage m.lineage := by
  obtain ⟨made, rest, result, s', hvisits, hrun, hwatched, houtcome⟩ :=
    Visitor.run_forM_call v root.visits [] s
  refine ⟨made, rest, result, s', ?_, ?_, ?_, houtcome, houtcome.ok_iff, ?_⟩
  · rw [Container.walk_eq_forM, hrun]
  · rw [Container.walk_eq_forM, hwatched, List.nil_append]
  · rw [← hvisits]
    exact root.visitsAt_moments ⟨rfl, rfl⟩
  · exact Container.moments_lineage root [] ⟨rfl, List.isChain_singleton root⟩

end ContainerMarkup
