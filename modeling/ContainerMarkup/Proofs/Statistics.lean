/-
ContainerMarkup/Proofs/Statistics.lean

What a walk counts.  The counting visitor looks at a container when it enters
it and at each of its values, so its counts are those of going through the
containers of the tree in preorder (`Container.statistics_eq_foldl`), and
going through a list adds up (`Statistics.foldl_count`).
-/
import ContainerMarkup.Proofs.Visits
import ContainerMarkup.Tree.Statistics
import Mathlib.Algebra.Ring.Nat

namespace ContainerMarkup

namespace Statistics

/-! ### From calls to containers -/

/-- Count what a call shows. -/
def see (s : Statistics) : Visit → Statistics
  | .enter c p => s.addContainer c p.depth
  | .value _ _ _ => s.addValue
  | .leave _ _ => s

/-- Count a container at a depth, and its values. -/
def count (s : Statistics) (q : Nat × Container) : Statistics :=
  { s.addContainer q.2 q.1 with values := s.values + q.2.values.size }

theorem visitor_call (visit : Visit) : visitor.call visit = modify (see · visit) := by
  cases visit <;> rfl

theorem foldl_see_values (entries : List Entry) (p : Place) (s : Statistics) :
    (entries.map fun e => Visit.value e.name e.value p).foldl see s =
      { s with values := s.values + entries.length } := by
  induction entries generalizing s with
  | nil => rfl
  | cons e entries ih =>
    rw [List.map_cons, List.foldl_cons, ih, List.length_cons, Nat.add_comm entries.length,
      ← Nat.add_assoc]
    rfl

mutual
theorem foldl_see_visitsAt (p : Place) (s : Statistics) :
    (c : Container) → (c.visitsAt p).foldl see s = (c.preorder p.depth).foldl count s
  | ⟨name, default, values, children⟩ => by
    rw [Container.visitsAt, List.foldl_cons, List.foldl_append, foldl_see_values,
      values.length_entries, List.foldl_append, foldl_see_visitsAll (p.inside name) _ children, Container.preorder,
      List.foldl_cons]
    rfl

theorem foldl_see_visitsAll (p : Place) (s : Statistics) :
    (cs : List Container) →
      (Container.visitsAll p cs).foldl see s = (Container.preorderAll p.depth cs).foldl count s
  | [] => rfl
  | c :: rest => by
    rw [Container.visitsAll, List.foldl_append, foldl_see_visitsAt p s c,
      foldl_see_visitsAll p _ rest, Container.preorderAll, List.foldl_append]
end

/-! ### The counts of a list of containers -/

/-- Counting adds up what is counted of each container, and keeps the greatest
depth. -/
theorem foldl_count (qs : List (Nat × Container)) (s : Statistics) :
    qs.foldl count s =
      { containers := s.containers + qs.length
        values := s.values + (qs.map fun q => q.2.values.size).sum
        defaults := s.defaults + qs.countP fun q => q.2.hasDefault
        useless := s.useless + qs.countP fun q => q.2.isUseless
        maxDepth := (qs.map Prod.fst).foldl max s.maxDepth } := by
  induction qs generalizing s with
  | nil => rfl
  | cons q qs ih =>
    rw [List.foldl_cons, ih]
    simp only [count, addContainer, List.length_cons, List.map_cons, List.sum_cons,
      List.countP_cons, List.foldl_cons, Nat.add_assoc, Nat.add_comm, Nat.add_left_comm]

theorem foldl_count_containers (qs : List (Nat × Container)) (s : Statistics) :
    (qs.foldl count s).containers = s.containers + qs.length := by
  rw [foldl_count]

theorem foldl_max_lt_iff (depths : List Nat) (depth limit : Nat) :
    depths.foldl max depth < limit ↔ depth < limit ∧ ∀ d ∈ depths, d < limit := by
  induction depths generalizing depth with
  | nil => simp
  | cons d depths ih =>
    rw [List.foldl_cons, ih, List.forall_mem_cons, ← and_assoc]
    exact and_congr_left fun _ => Nat.max_lt

theorem foldl_count_maxDepth (qs : List (Nat × Container)) (s : Statistics) (limit : Nat) :
    (qs.foldl count s).maxDepth < limit ↔ s.maxDepth < limit ∧ ∀ q ∈ qs, q.1 < limit := by
  rw [foldl_count, foldl_max_lt_iff, List.forall_mem_map]

end Statistics

/-- A walk that counts goes through the containers of a tree in preorder. -/
theorem Container.statistics_eq_foldl (c : Container) :
    c.statistics = (c.preorder 0).foldl Statistics.count {} := by
  rw [Container.statistics, Container.run_walk Statistics.see Statistics.visitor_call]
  exact Statistics.foldl_see_visitsAt {} {} c

end ContainerMarkup
