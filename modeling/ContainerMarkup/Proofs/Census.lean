/-
ContainerMarkup/Proofs/Census.lean

The counts of a walk are the numbers of the tree.  A walk that counts carries
its counts from call to call; the numbers of a tree are said of the list of
its containers (`Container.preorder`) and, for the depth, of the containers
around each of them (`Container.IsLineage`):

    (depth, c) ∈ root.preorder 0  ↔  c is in the tree, `depth` containers around it.

A counting visitor cannot fail.  Among visitors that may, it is one whose walk
succeeds with the same state (`Container.run_walk_unfailing`).

Main result: a walk that counts succeeds, and its counts are the number of
containers of the tree, of their values, of those with a default that is not
empty and of the useless ones, and the greatest depth (`Container.walk_census`).
-/
import ContainerMarkup.Proofs.Statistics
import ContainerMarkup.Proofs.Traversal
import Mathlib.Order.Bounds.Basic

namespace ContainerMarkup

/-! ### Visitors that never fail -/

section Unfailing

variable {σ : Type} (ε : Type) (v : Visitor (StateM σ))

/-- A visitor whose calls cannot fail, among those whose calls may. -/
def Visitor.unfailing : Visitor (ExceptT ε (StateM σ)) where
  enter c p := ExceptT.lift (v.enter c p)
  value name text p := ExceptT.lift (v.value name text p)
  leave c p := ExceptT.lift (v.leave c p)

theorem Visitor.run_unfailing_call (visit : Visit) (s : σ) :
    ((v.unfailing ε).call visit).run.run s = (.ok (), ((v.call visit).run s).2) := by
  cases visit <;> rfl

theorem Visitor.run_forM_unfailing (visits : List Visit) (s : σ) :
    (forM visits (v.unfailing ε).call).run.run s = (.ok (), ((forM visits v.call).run s).2) := by
  induction visits generalizing s with
  | nil => rfl
  | cons visit visits ih =>
    rw [Visitor.run_forM_cons, Visitor.run_unfailing_call]
    exact ih _

/-- If no call fails, a walk succeeds, with the state that the calls make. -/
theorem Container.run_walk_unfailing (c : Container) (s : σ) :
    (c.walk (v.unfailing ε)).run.run s = (.ok (), ((c.walk v).run s).2) := by
  rw [Container.walk_eq_forM, Container.walk_eq_forM, Visitor.run_forM_unfailing]

end Unfailing

/-! ### The containers of a tree and those around them -/

namespace Container

variable {root parent child : Container} {above : List Container}

theorem self_mem_preorder (depth : Nat) (c : Container) : (depth, c) ∈ c.preorder depth := by
  cases c
  rw [preorder]
  exact List.mem_cons_self

theorem mem_preorderAll {depth : Nat} {cs : List Container} {q : Nat × Container} :
    q ∈ preorderAll depth cs ↔ ∃ c ∈ cs, q ∈ c.preorder depth := by
  induction cs with
  | nil => simp [preorderAll]
  | cons c cs ih => rw [preorderAll, List.mem_append, ih, List.exists_mem_cons_iff]

mutual
/-- A child of a container of a tree is one, a level further in. -/
theorem child_mem_preorder {depth d : Nat} (hchild : child ∈ parent.children) :
    (c : Container) → (d, parent) ∈ c.preorder depth → (d + 1, child) ∈ c.preorder depth
  | ⟨name, default, values, children⟩, h => by
    rw [preorder, List.mem_cons] at h ⊢
    rcases h with h | h
    · cases h
      exact .inr (mem_preorderAll.2 ⟨child, hchild, child.self_mem_preorder _⟩)
    · exact .inr (child_mem_preorderAll hchild children h)

theorem child_mem_preorderAll {depth d : Nat} (hchild : child ∈ parent.children) :
    (cs : List Container) → (d, parent) ∈ preorderAll depth cs →
      (d + 1, child) ∈ preorderAll depth cs
  | [], h => by
    rw [preorderAll] at h
    cases h
  | c :: rest, h => by
    rw [preorderAll, List.mem_append] at h ⊢
    exact h.imp (child_mem_preorder hchild c) (child_mem_preorderAll hchild rest)
end

theorem IsLineage.pop (h : root.IsLineage (above ++ [parent] ++ [child])) :
    root.IsLineage (above ++ [parent]) ∧ child ∈ parent.children := by
  obtain ⟨hchain, -, hlast⟩ := List.isChain_append.1 h.chain
  have hhead := h.head
  rw [List.head?_append_of_ne_nil _ (by simp)] at hhead
  exact ⟨⟨hhead, hchain⟩, hlast parent (by simp) child (by simp)⟩

/-- The last container of a lineage is listed. -/
theorem mem_preorder_of_isLineage (c : Container) (above : List Container) :
    root.IsLineage (above ++ [c]) → (above.length, c) ∈ root.preorder 0 := by
  induction above using List.reverseRecOn generalizing c with
  | nil =>
    intro h
    obtain rfl := Option.some.inj h.head
    exact c.self_mem_preorder 0
  | append_singleton above parent ih =>
    intro h
    -- the parent is listed, and with it each of its children
    obtain ⟨hparent, hchild⟩ := h.pop
    rw [List.length_append]
    exact child_mem_preorder hchild root (ih parent hparent)

mutual
/-- A container that is listed has as many containers around it as its depth
says. -/
theorem exists_isLineage : (c : Container) → (above : List Container) →
    root.IsLineage (above ++ [c]) → ∀ q ∈ c.preorder above.length,
      ∃ around, root.IsLineage (around ++ [q.2]) ∧ around.length = q.1
  | ⟨name, default, values, children⟩, above, h => by
    rw [preorder, List.forall_mem_cons]
    refine ⟨⟨above, h, rfl⟩, ?_⟩
    have hbelow := exists_isLineage_all children _ fun child hchild => h.push hchild
    rwa [List.length_append] at hbelow

theorem exists_isLineage_all : (cs : List Container) → (above : List Container) →
    (∀ c ∈ cs, root.IsLineage (above ++ [c])) → ∀ q ∈ preorderAll above.length cs,
      ∃ around, root.IsLineage (around ++ [q.2]) ∧ around.length = q.1
  | [], above, h => by simp [preorderAll]
  | c :: rest, above, h => by
    obtain ⟨hc, hrest⟩ := List.forall_mem_cons.1 h
    rw [preorderAll, List.forall_mem_append]
    exact ⟨exists_isLineage c above hc, exists_isLineage_all rest above hrest⟩
end

/-- The containers of a tree, with the number of those around them. -/
theorem mem_preorder_iff (root c : Container) (depth : Nat) :
    (depth, c) ∈ root.preorder 0 ↔
      ∃ above, root.IsLineage (above ++ [c]) ∧ above.length = depth := by
  constructor
  · intro h
    exact exists_isLineage root [] ⟨rfl, List.isChain_singleton root⟩ (depth, c) h
  · rintro ⟨above, h, rfl⟩
    exact mem_preorder_of_isLineage c above h

/-! ### The counts -/

theorem hasDefault_eq (c : Container) :
    c.hasDefault = decide (c.default ≠ none ∧ c.default ≠ some "") := by
  rw [Bool.eq_iff_iff, decide_eq_true_eq, hasDefault]
  rcases c.default with - | d <;> simp

/-- The greatest depth that is counted is one that a container has. -/
theorem isGreatest_maxDepth (root : Container) :
    IsGreatest { depth | ∃ c, (depth, c) ∈ root.preorder 0 } root.statistics.maxDepth := by
  have hlt := Statistics.foldl_count_maxDepth (root.preorder 0) {}
  rw [← root.statistics_eq_foldl] at hlt
  have hle : ∀ q ∈ root.preorder 0, q.1 ≤ root.statistics.maxDepth := by
    intro q hq
    exact Nat.le_of_lt_succ (((hlt _).1 (Nat.lt_succ_self _)).2 q hq)
  constructor
  · -- were no container that deep, the greatest depth would be less than itself
    by_contra hnone
    have hless : ∀ q ∈ root.preorder 0, q.1 < root.statistics.maxDepth := by
      rintro ⟨depth, c⟩ hq
      refine Nat.lt_of_le_of_ne (hle _ hq) ?_
      rintro rfl
      exact hnone ⟨c, hq⟩
    have hpos := hless (0, root) (root.self_mem_preorder 0)
    exact Nat.lt_irrefl _ ((hlt _).2 ⟨hpos, hless⟩)
  · rintro depth ⟨c, hc⟩
    exact hle _ hc

/-- The counts of a tree, added up over its containers. -/
theorem statistics_eq (root : Container) :
    root.statistics =
      { containers := (root.preorder 0).length
        values := ((root.preorder 0).map fun q => q.2.values.size).sum
        defaults := (root.preorder 0).countP fun q => q.2.hasDefault
        useless := (root.preorder 0).countP fun q => q.2.isUseless
        maxDepth := ((root.preorder 0).map Prod.fst).foldl max 0 } := by
  rw [statistics_eq_foldl, Statistics.foldl_count]
  simp only [Nat.zero_add]

/-- **Census.**  For every tree, a walk that counts succeeds.  It counts the
containers of the tree, their values, the containers with a default that is
set and not empty, the useless ones, and the greatest number of containers
that one of them has around it. -/
theorem walk_census (root : Container) (ε : Type) :
    (root.walk (Statistics.visitor.unfailing ε)).run.run {} = (.ok (), root.statistics) ∧
    root.statistics.containers = (root.preorder 0).length ∧
    root.statistics.values = ((root.preorder 0).map fun q => q.2.values.size).sum ∧
    root.statistics.defaults =
      (root.preorder 0).countP (fun q => q.2.default ≠ none ∧ q.2.default ≠ some "") ∧
    root.statistics.useless = (root.preorder 0).countP (fun q => q.2.isUseless) ∧
    IsGreatest { depth | ∃ above c, root.IsLineage (above ++ [c]) ∧ above.length = depth }
      root.statistics.maxDepth := by
  have hdefaults : (fun q : Nat × Container => q.2.hasDefault) =
      fun q => decide (q.2.default ≠ none ∧ q.2.default ≠ some "") := by
    funext q
    exact q.2.hasDefault_eq
  have hdepths : { depth | ∃ c, (depth, c) ∈ root.preorder 0 } =
      { depth | ∃ above c, root.IsLineage (above ++ [c]) ∧ above.length = depth } := by
    ext depth
    show (∃ c, (depth, c) ∈ root.preorder 0) ↔ _
    simp only [mem_preorder_iff]
    exact exists_comm
  refine ⟨root.run_walk_unfailing ε Statistics.visitor {}, ?_, ?_, ?_, ?_, ?_⟩
  · rw [statistics_eq]
  · rw [statistics_eq]
  · rw [statistics_eq, hdefaults]
  · rw [statistics_eq]
  · rw [← hdepths]
    exact root.isGreatest_maxDepth

end Container

end ContainerMarkup
