/-
ContainerMarkup/Proofs/Document.lean

Words with any number of outermost containers.  They all share one root:
each gives it a new name, default and values, and adds its children to those
that are there.  `Renews root as final` says, without a stack, that the word
takes one root to another in this way.

Main result: a word that starts and ends with nothing open takes a root to
another exactly if it renews the one to the other
(`run_eq_some_iff_renews`).  What is read off a document by induction over
its outermost containers follows from that:

* the children that were there before go through unchanged, and the rest of
  the old root leaves no trace (`Renews.prepend`, `Renews.of_children`);
* the containers opened, less the outermost ones, are those below the root
  (`Renews.openings`), and the containers open at once are one more than the
  greatest depth (`Renews.peak_le_iff`);
* every container has its header and its values from the word
  (`Renews.givenBy`).
-/
import ContainerMarkup.Proofs.Compile
import ContainerMarkup.Proofs.Description

namespace ContainerMarkup

open Source

/-! ### Roots and words -/

/-- The word takes one root to another, one outermost container after the
other. -/
inductive Renews : Container → List Action → Container → Prop
  | nil {root : Container} : Renews root [] root
  | cons {root final : Container} {g : Group} {inner as : List Action} {own : List Attribute}
      {kids : List Container} {values : Values} :
      Described inner own kids →
      Values.empty.insertAll ((g.others ++ own).map Attribute.pair) = .ok values →
      Renews ⟨g.lead.name, g.default?, values, root.children ++ kids⟩ as final →
      Renews root (.enter g :: (inner ++ .leave :: as)) final

variable {root final : Container} {as bs : List Action} {vs : List Attribute}
  {cs : List Container}

theorem renews_of_run {n : Nat} (hn : as.length ≤ n)
    (h : Draft.run ⟨root, []⟩ as = some ⟨final, []⟩) : Renews root as final := by
  -- on the length of the word, because what follows a container is no tail of it
  induction n generalizing root as with
  | zero =>
    obtain rfl : as = [] := List.eq_nil_of_length_eq_zero (Nat.le_zero.1 hn)
    obtain rfl : root = final := congrArg Draft.root (Option.some.inj h)
    exact .nil
  | succ n ih =>
    by_cases hne : as = []
    · subst hne
      exact ih (Nat.zero_le n) h
    · obtain ⟨g, inner, own, kids, values, after, rfl, hinner, hvalues⟩ :=
        exists_described_outermost hne h
      rw [hinner.run_outermost hvalues] at h
      have hafter : after.length ≤ n := by
        simp only [List.length_cons, List.length_append] at hn
        omega
      exact .cons hinner hvalues (ih hafter h)

/-- **Documents.**  A word takes a root to another, with nothing open before
and after, exactly if it renews the one to the other. -/
theorem run_eq_some_iff_renews :
    Draft.run ⟨root, []⟩ as = some ⟨final, []⟩ ↔ Renews root as final := by
  constructor
  · exact renews_of_run (Nat.le_refl _)
  · intro h
    induction h with
    | nil => rfl
    | cons hinner hvalues _ ih =>
      rw [hinner.run_outermost hvalues]
      exact ih

/-- The tree of a text is renewed from the empty container. -/
theorem renews_of_compile {options : Options} {text : String}
    (h : (compile options text).result = .ok root) :
    Renews Container.empty (sourceActions text) root := by
  obtain ⟨-, hrun, -⟩ := assemble_eq_ok_iff.1 (compile_eq_ok_iff.1 h).2
  exact run_eq_some_iff_renews.1 hrun

/-! ### What becomes of the old root -/

/-- Children that were there before stay before those that are added. -/
theorem Renews.prepend (h : Renews root as final) (before : List Container) :
    Renews { root with children := before ++ root.children } as
      { final with children := before ++ final.children } := by
  induction h with
  | nil => exact .nil
  | cons hinner hvalues _ ih =>
    apply Renews.cons hinner hvalues
    rw [List.append_assoc]
    exact ih

/-- Of the old root, only the children matter. -/
theorem Renews.of_children {other : Container} (h : Renews root as final) (hne : as ≠ [])
    (hchildren : other.children = root.children) : Renews other as final := by
  cases h with
  | nil => exact absurd rfl hne
  | cons hinner hvalues hrest =>
    rw [← hchildren] at hrest
    exact .cons hinner hvalues hrest

/-! ### Measures of a document -/

theorem Container.preorderAll_append (depth : Nat) (xs ys : List Container) :
    Container.preorderAll depth (xs ++ ys) =
      Container.preorderAll depth xs ++ Container.preorderAll depth ys := by
  induction xs with
  | nil => rfl
  | cons c xs ih =>
    rw [List.cons_append, Container.preorderAll, ih, Container.preorderAll, List.append_assoc]

/-- The containers of a tree are its root and those below. -/
theorem Container.preorder_eq (depth : Nat) (c : Container) :
    c.preorder depth = (depth, c) :: Container.preorderAll (depth + 1) c.children := by
  obtain ⟨name, default, values, children⟩ := c
  rw [Container.preorder]

theorem Described.openings_enter (h : Described as vs cs) (g : Group) (after : List Action) :
    Action.openings (.enter g :: (as ++ .leave :: after)) =
      (Container.preorderAll 1 cs).length + Action.openings after + 1 := by
  rw [← h.openings 1]
  simp [Action.openings, Action.isEnter, List.countP_cons]

/-- The containers opened below the root are the containers below the root
that were not there before. -/
theorem Renews.openings (h : Renews root as final) :
    Action.outermost 0 as + (Container.preorderAll 1 final.children).length =
      Action.openings as + (Container.preorderAll 1 root.children).length := by
  induction h with
  | nil => rfl
  | cons hinner _ _ ih =>
    rw [Container.preorderAll_append, List.length_append] at ih
    rw [hinner.outermost_enter, hinner.openings_enter]
    omega

/-- A document has as many containers open at once as its tree, or what was
there before, is deep. -/
theorem Renews.peak_le_iff (h : Renews root as final) (limit : Nat) :
    (Action.peak 0 as ≤ limit ∧ ∀ q ∈ Container.preorderAll 1 root.children, q.1 < limit) ↔
      (as ≠ [] → 0 < limit) ∧ ∀ q ∈ Container.preorderAll 1 final.children, q.1 < limit := by
  induction h with
  | nil => simp [Action.peak]
  | @cons root final g inner as own kids values hinner _ _ ih =>
    rw [Container.preorderAll_append, List.forall_mem_append] at ih
    rw [Action.peak, Action.level, Nat.max_le, Action.peak_append, Nat.max_le,
      hinner.peak_le_iff, hinner.depthAfter, Action.peak, Action.level, Nat.max_le]
    constructor
    · rintro ⟨⟨-, ⟨hlt, hkids⟩, -, hpeak⟩, hroot⟩
      exact ⟨fun _ => hlt, (ih.1 ⟨hpeak, hroot, hkids⟩).2⟩
    · rintro ⟨hpos, hfinal⟩
      have hlt : 0 < limit := hpos (List.cons_ne_nil _ _)
      obtain ⟨hpeak, hroot, hkids⟩ := ih.2 ⟨fun _ => hlt, hfinal⟩
      exact ⟨⟨Nat.zero_le _, ⟨hlt, hkids⟩, hlt, hpeak⟩, hroot⟩

/-! ### Where containers come from -/

/-- A container with the name and default of a header that the word opens,
and with the further pairs of that header and some values of the word, each
exactly once. -/
def Container.GivenBy (c : Container) (as : List Action) : Prop :=
  ∃ (g : Group) (own : List Attribute), .enter g ∈ as ∧ (∀ a ∈ own, .value a ∈ as) ∧
    c.name = g.lead.name ∧ c.default = g.default? ∧
      c.values.entries.Perm ((g.others ++ own).map Attribute.entry)

theorem Container.GivenBy.mono {c : Container} (h : c.GivenBy as) (hsub : as ⊆ bs) :
    c.GivenBy bs := by
  obtain ⟨g, own, hg, hown, hname, hdefault, hvalues⟩ := h
  exact ⟨g, own, hsub hg, fun a ha => hsub (hown a ha), hname, hdefault, hvalues⟩

theorem Described.value_mem (h : Described as vs cs) : ∀ a ∈ vs, .value a ∈ as := by
  induction h with
  | nil => simp
  | value _ ih =>
    rw [List.forall_mem_cons]
    exact ⟨List.mem_cons_self, fun a ha => List.mem_cons_of_mem _ (ih a ha)⟩
  | child _ _ _ _ ihRest =>
    intro a ha
    simp [ihRest a ha]

theorem Described.givenBy (h : Described as vs cs) (depth : Nat) :
    ∀ q ∈ Container.preorderAll depth cs, q.2.GivenBy as := by
  induction h generalizing depth with
  | nil => simp [Container.preorderAll]
  | value _ ih => exact fun q hq => (ih depth q hq).mono (List.subset_cons_self _ _)
  | @child g inner as own vs kids cs values hinner hvalues _ ihInner ihRest =>
    rw [Container.preorderAll, Container.preorder, List.forall_mem_append, List.forall_mem_cons]
    refine ⟨⟨?_, fun q hq => ?_⟩, fun q hq => ?_⟩
    · refine ⟨g, own, List.mem_cons_self, fun a ha => ?_, rfl, rfl, Values.insertAll_perm hvalues⟩
      simp [hinner.value_mem a ha]
    · apply (ihInner (depth + 1) q hq).mono
      exact List.subset_cons_of_subset _ (List.subset_append_left _ _)
    · apply (ihRest depth q hq).mono
      apply List.subset_cons_of_subset
      exact List.subset_append_of_subset_right _ (List.subset_cons_self _ _)

/-- Unless the word is empty, every container of the new root is given by it,
if those below the old root are. -/
theorem Renews.givenBy (h : Renews root as final) (hsub : as ⊆ bs)
    (hroot : ∀ q ∈ Container.preorderAll 1 root.children, q.2.GivenBy bs) :
    final = root ∨ ∀ q ∈ final.preorder 0, q.2.GivenBy bs := by
  induction h with
  | nil => exact .inl rfl
  | @cons root final g inner as own kids values hinner hvalues _ ih =>
    right
    have henter : .enter g ∈ bs := hsub List.mem_cons_self
    have hinside : inner ⊆ bs := fun a ha => hsub (by simp [ha])
    have hafter : as ⊆ bs := fun a ha => hsub (by simp [ha])
    have hbelow : ∀ q ∈ Container.preorderAll 1 (root.children ++ kids), q.2.GivenBy bs := by
      rw [Container.preorderAll_append, List.forall_mem_append]
      exact ⟨hroot, fun q hq => (hinner.givenBy 1 q hq).mono hinside⟩
    rcases ih hafter hbelow with rfl | hall
    · -- the last outermost container, whose header the root keeps
      rw [Container.preorder_eq, List.forall_mem_cons]
      refine ⟨⟨g, own, henter, fun a ha => ?_, rfl, rfl, Values.insertAll_perm hvalues⟩, hbelow⟩
      exact hinside (hinner.value_mem a ha)
    · exact hall

end ContainerMarkup
