/-
ContainerMarkup/Proofs/Description.lean

Words of actions that describe trees.  `Described as vs cs` says, without a
stack, that a word gives the values `vs` to the container around it and adds
the children `cs` to it: a value stands for itself, and a child is an opening
action, the description of what is inside, and a closing action.

Main results: a draft that performs a description gets these values and
children (`Described.run`); conversely, every word that brings an open
container to its end begins with a description of what it gains
(`exists_described`).  So the stack machine builds a tree from a word with
one outermost container exactly if the word describes the tree
(`run_eq_some_iff_described`).

It is one relation and not two mutual ones, for a container and for a list
of children, so that induction applies to it directly.
-/
import ContainerMarkup.Proofs.Draft

namespace ContainerMarkup

open Source

/-! ### Descriptions -/

/-- The word gives these values, and adds these children, to the container
around it. -/
inductive Described : List Action → List Attribute → List Container → Prop
  | nil : Described [] [] []
  | value {a : Attribute} {as : List Action} {vs : List Attribute} {cs : List Container} :
      Described as vs cs → Described (.value a :: as) (a :: vs) cs
  | child {g : Group} {inner as : List Action} {own vs : List Attribute}
      {kids cs : List Container} {values : Values} :
      Described inner own kids →
      Values.empty.insertAll ((g.others ++ own).map Attribute.pair) = .ok values →
      Described as vs cs →
      Described (.enter g :: (inner ++ .leave :: as)) vs
        (⟨g.lead.name, g.default?, values, kids⟩ :: cs)

/-! ### Performing a description -/

/-- The header of a described child can be opened, and the values inside
complete those of the header. -/
theorem exists_containerOf_of_insertAll {g : Group} {own : List Attribute} {values : Values}
    (h : Values.empty.insertAll ((g.others ++ own).map Attribute.pair) = .ok values) :
    ∃ header, Assembly.containerOf g = .ok ⟨g.lead.name, g.default?, header, []⟩ ∧
      header.insertAll (own.map Attribute.pair) = .ok values := by
  rw [List.map_append, Values.insertAll_append, bind_eq_ok_iff] at h
  obtain ⟨header, hheader, hown⟩ := h
  exact ⟨header, Assembly.containerOf_eq_ok_iff.2 ⟨header, hheader, rfl⟩, hown⟩

theorem Described.run {as : List Action} {vs : List Attribute} {cs : List Container}
    (h : Described as vs cs) (root top : Container) (rest : List Container) {values : Values}
    (hvalues : top.values.insertAll (vs.map Attribute.pair) = .ok values) :
    Draft.run ⟨root, top :: rest⟩ as =
      some ⟨root, { top with values := values, children := top.children ++ cs } :: rest⟩ := by
  induction h generalizing top rest values with
  | nil =>
    obtain ⟨name, default, inside, children⟩ := top
    obtain rfl := Except.ok.inj hvalues
    simp
  | @value a as vs cs _ ih =>
    rw [List.map_cons, Values.insertAll_cons, bind_eq_ok_iff] at hvalues
    obtain ⟨first, hfirst, hvalues⟩ := hvalues
    have hact : Draft.act ⟨root, top :: rest⟩ (.value a) =
        some ⟨root, { top with values := first } :: rest⟩ :=
      Draft.act_value_eq_some_iff.2 ⟨top, rest, first, rfl, hfirst, rfl⟩
    rw [Draft.run_cons, hact]
    exact ih { top with values := first } rest hvalues
  | @child g inner as own vs kids cs inside _ hinside _ ihInner ihRest =>
    obtain ⟨header, hheader, hown⟩ := exists_containerOf_of_insertAll hinside
    have hact : Draft.act ⟨root, top :: rest⟩ (.enter g) =
        some ⟨root, ⟨g.lead.name, g.default?, header, []⟩ :: top :: rest⟩ :=
      Draft.act_enter_eq_some_iff.2 ⟨_, hheader, rfl⟩
    have hchild := ihInner ⟨g.lead.name, g.default?, header, []⟩ (top :: rest) hown
    rw [Draft.run_cons, hact, Option.bind_some, Draft.run_append, hchild, Option.bind_some,
      Draft.run_cons]
    have hrest := ihRest (top.addChild ⟨g.lead.name, g.default?, inside, kids⟩) rest hvalues
    rw [Container.addChild, List.append_assoc] at hrest
    exact hrest

/-! ### Reading a description off a run -/

/-- **The first part of a run.**  A word that takes an open container to the
end of everything begins with a description of what the container gains, and
the action that closes it. -/
theorem exists_described {n : Nat} {as : List Action} (hn : as.length ≤ n)
    {root top final : Container} {rest : List Container}
    (h : Draft.run ⟨root, top :: rest⟩ as = some ⟨final, []⟩) :
    ∃ inner vs cs after values, as = inner ++ .leave :: after ∧ Described inner vs cs ∧
      top.values.insertAll (vs.map Attribute.pair) = .ok values := by
  -- on the length of the word, because what follows a child is no tail of it
  induction n generalizing as top rest with
  | zero =>
    obtain rfl : as = [] := List.eq_nil_of_length_eq_zero (Nat.le_zero.1 hn)
    cases h
  | succ n ih =>
    rcases as with - | ⟨a, as⟩
    · cases h
    · have hlen : as.length ≤ n := Nat.le_of_succ_le_succ hn
      obtain ⟨d, hd, hrun⟩ := Option.bind_eq_some_iff.1 h
      cases a with
      | leave => exact ⟨[], [], [], as, top.values, rfl, .nil, rfl⟩
      | value a =>
        obtain ⟨top', rest', first, hstack, hfirst, rfl⟩ := Draft.act_value_eq_some_iff.1 hd
        obtain ⟨rfl, rfl⟩ := List.cons.inj hstack
        obtain ⟨inner, vs, cs, after, values, rfl, hdesc, hvalues⟩ := ih hlen hrun
        refine ⟨.value a :: inner, a :: vs, cs, after, values, rfl, .value hdesc, ?_⟩
        rw [List.map_cons, Values.insertAll_cons, bind_eq_ok_iff]
        exact ⟨first, hfirst, hvalues⟩
      | enter g =>
        obtain ⟨c, hc, rfl⟩ := Draft.act_enter_eq_some_iff.1 hd
        obtain ⟨header, hheader, rfl⟩ := Assembly.containerOf_eq_ok_iff.1 hc
        obtain ⟨inner, own, kids, after, inside, rfl, hinner, hown⟩ := ih hlen hrun
        have hinside : Values.empty.insertAll ((g.others ++ own).map Attribute.pair) =
            .ok inside := by
          rw [List.map_append, Values.insertAll_append, bind_eq_ok_iff]
          exact ⟨header, hheader, hown⟩
        -- the child is closed, and the run goes on with its parent
        have hdone := hinner.run root _ (top :: rest) hown
        have hrun' : Draft.run ⟨root, top.addChild ⟨g.lead.name, g.default?, inside, kids⟩ :: rest⟩
            after = some ⟨final, []⟩ := by
          rw [Draft.run_append] at hrun
          obtain ⟨e, he, hrun⟩ := Option.bind_eq_some_iff.1 hrun
          obtain rfl := Option.some.inj (he.symm.trans hdone)
          exact hrun
        have hafter : after.length ≤ n := by
          rw [List.length_append, List.length_cons] at hlen
          omega
        obtain ⟨inner', vs, cs, after', values, rfl, hdesc, hvalues⟩ := ih hafter hrun'
        refine ⟨.enter g :: (inner ++ .leave :: inner'), vs, _, after', values, ?_,
          .child hinner hinside hdesc, hvalues⟩
        simp

/-! ### Outermost containers -/

variable {as : List Action} {vs : List Attribute} {cs : List Container}

/-- An outermost container gives the root a new name, default and values, and
adds its children. -/
theorem Described.run_outermost {g : Group} {values : Values} (h : Described as vs cs)
    (hvalues : Values.empty.insertAll ((g.others ++ vs).map Attribute.pair) = .ok values)
    (root : Container) (after : List Action) :
    Draft.run ⟨root, []⟩ (.enter g :: (as ++ .leave :: after)) =
      Draft.run ⟨⟨g.lead.name, g.default?, values, root.children ++ cs⟩, []⟩ after := by
  obtain ⟨header, hheader, hown⟩ := exists_containerOf_of_insertAll hvalues
  have hact : Draft.act ⟨root, []⟩ (.enter g) =
      some ⟨root, [⟨g.lead.name, g.default?, header, root.children⟩]⟩ :=
    Draft.act_enter_eq_some_iff.2 ⟨_, hheader, rfl⟩
  have hdone := h.run root ⟨g.lead.name, g.default?, header, root.children⟩ [] hown
  rw [Draft.run_cons, hact, Option.bind_some, Draft.run_append, hdone]
  rfl

/-- A word that runs on when nothing is open begins with an outermost
container. -/
theorem exists_described_outermost {root final : Container} (hne : as ≠ [])
    (h : Draft.run ⟨root, []⟩ as = some ⟨final, []⟩) :
    ∃ g inner own kids values after, as = .enter g :: (inner ++ .leave :: after) ∧
      Described inner own kids ∧
      Values.empty.insertAll ((g.others ++ own).map Attribute.pair) = .ok values := by
  rcases as with - | ⟨a, as⟩
  · exact absurd rfl hne
  · obtain ⟨d, hd, hrun⟩ := Option.bind_eq_some_iff.1 h
    cases a with
    | leave => cases hd
    | value a => cases hd
    | enter g =>
      obtain ⟨c, hc, rfl⟩ := Draft.act_enter_eq_some_iff.1 hd
      obtain ⟨header, hheader, rfl⟩ := Assembly.containerOf_eq_ok_iff.1 hc
      obtain ⟨inner, own, kids, after, values, rfl, hinner, hown⟩ :=
        exists_described (Nat.le_refl _) hrun
      refine ⟨g, inner, own, kids, values, after, rfl, hinner, ?_⟩
      rw [List.map_append, Values.insertAll_append, bind_eq_ok_iff]
      exact ⟨header, hheader, hown⟩

namespace Action

/-- How many containers are opened while no other is open. -/
def outermost (depth : Nat) : List Action → Nat
  | [] => 0
  | a :: as => (if a.isEnter && depth == 0 then 1 else 0) + outermost (a.level depth) as

end Action

theorem Described.depthAfter (h : Described as vs cs) (depth : Nat) :
    Action.depthAfter depth as = depth := by
  induction h generalizing depth with
  | nil => rfl
  | value _ ih => exact ih depth
  | child _ _ _ ihInner ihRest =>
    rw [Action.depthAfter_cons, Action.depthAfter_append, ihInner, Action.depthAfter_cons, ihRest]
    rfl

/-- A description inside a container opens none that is outermost. -/
theorem Described.outermost_append (h : Described as vs cs) (depth : Nat) (after : List Action) :
    Action.outermost (depth + 1) (as ++ after) = Action.outermost (depth + 1) after := by
  induction h generalizing depth after with
  | nil => rfl
  | value _ ih =>
    rw [List.cons_append, Action.outermost, Action.level, ih]
    simp
  | child _ _ _ ihInner ihRest =>
    rw [List.cons_append, List.append_assoc, Action.outermost, Action.level, ihInner,
      List.cons_append, Action.outermost, Action.level, Nat.add_sub_cancel, ihRest]
    simp [Action.isEnter]

/-- An outermost container counts once, and its inside does not count. -/
theorem Described.outermost_enter (h : Described as vs cs) (g : Group) (after : List Action) :
    Action.outermost 0 (.enter g :: (as ++ .leave :: after)) = Action.outermost 0 after + 1 := by
  rw [Action.outermost, Action.level, h.outermost_append 0, Action.outermost, Action.level]
  simp [Action.isEnter, Nat.add_comm]

/-- A description of one container is an opening action, a description of
what is inside, and a closing action. -/
theorem described_singleton_iff {root : Container} :
    Described as [] [root] ↔
      ∃ g inner own kids values, as = .enter g :: (inner ++ [.leave]) ∧
        Described inner own kids ∧
        Values.empty.insertAll ((g.others ++ own).map Attribute.pair) = .ok values ∧
        root = ⟨g.lead.name, g.default?, values, kids⟩ := by
  constructor
  · intro h
    cases h with
    | @child g inner as own _ kids _ values hinner hinside hrest =>
      cases hrest
      exact ⟨g, inner, own, kids, values, rfl, hinner, hinside, rfl⟩
  · rintro ⟨g, inner, own, kids, values, rfl, hinner, hinside, rfl⟩
    exact .child hinner hinside .nil

/-- **Trees and words.**  A word with one outermost container builds a tree
exactly if it describes the tree. -/
theorem run_eq_some_iff_described {root : Container} :
    ({} : Draft).run as = some ⟨root, []⟩ ∧ Action.outermost 0 as = 1 ↔
      Described as [] [root] := by
  rw [described_singleton_iff]
  constructor
  · rintro ⟨h, hone⟩
    have hne : as ≠ [] := by
      rintro rfl
      cases hone
    obtain ⟨g, inner, own, kids, values, after, rfl, hinner, hinside⟩ :=
      exists_described_outermost hne h
    rw [hinner.outermost_enter] at hone
    rw [hinner.run_outermost hinside] at h
    -- what follows is performed with nothing open, so it opens nothing
    rcases after with - | ⟨a, after⟩
    · have hroot : root = ⟨g.lead.name, g.default?, values, kids⟩ :=
        (congrArg Draft.root (Option.some.inj h)).symm
      exact ⟨g, inner, own, kids, values, rfl, hinner, hinside, hroot⟩
    · obtain ⟨g', inner', own', kids', values', after', heq, hinner', -⟩ :=
        exists_described_outermost (List.cons_ne_nil a after) h
      rw [heq, hinner'.outermost_enter] at hone
      omega
  · rintro ⟨g, inner, own, kids, values, rfl, hinner, hinside, rfl⟩
    constructor
    · exact hinner.run_outermost hinside Container.empty []
    · rw [hinner.outermost_enter]
      rfl

/-! ### Measures of a description -/

/-- A description opens each container of its trees once. -/
theorem Described.openings (h : Described as vs cs) (depth : Nat) :
    Action.openings as = (Container.preorderAll depth cs).length := by
  induction h generalizing depth with
  | nil => rfl
  | value _ ih =>
    rw [← ih depth]
    rfl
  | @child g inner as own vs kids cs values _ _ _ ihInner ihRest =>
    have hcons : Action.openings (.enter g :: (inner ++ .leave :: as)) =
        Action.openings inner + Action.openings as + 1 := by
      simp [Action.openings, Action.isEnter, List.countP_cons]
    rw [hcons, Container.preorderAll, Container.preorder, ihInner (depth + 1), ihRest depth,
      List.length_append, List.length_cons]
    omega

/-- A description reaches one level more than the depth of each container of
its trees. -/
theorem Described.peak_le_iff (h : Described as vs cs) (depth limit : Nat) :
    Action.peak depth as ≤ limit ↔
      depth ≤ limit ∧ ∀ q ∈ Container.preorderAll depth cs, q.1 < limit := by
  induction h generalizing depth with
  | nil => simp [Action.peak, Container.preorderAll]
  | value _ ih =>
    rw [Action.peak, Action.level, Nat.max_le, ih]
    simp
  | @child g inner as own vs kids cs values hinner _ _ ihInner ihRest =>
    rw [Action.peak, Action.level, Nat.max_le, Action.peak_append, Nat.max_le, ihInner,
      hinner.depthAfter, Action.peak, Action.level, Nat.max_le, Nat.add_sub_cancel, ihRest,
      Container.preorderAll, Container.preorder]
    simp only [List.cons_append, List.forall_mem_cons, List.forall_mem_append]
    constructor
    · rintro ⟨hdepth, ⟨hlt, hkids⟩, -, -, hrest⟩
      exact ⟨hdepth, hlt, hkids, hrest⟩
    · rintro ⟨hdepth, hlt, hkids, hrest⟩
      exact ⟨hdepth, ⟨hlt, hkids⟩, hlt, hdepth, hrest⟩

end ContainerMarkup
