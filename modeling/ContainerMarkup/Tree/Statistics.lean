/-
ContainerMarkup/Tree/Statistics.lean

Counting what is in a tree, by a walk that keeps the counts.
-/
import ContainerMarkup.Tree.Walk

namespace ContainerMarkup

/-- The counts of a tree: its containers, their values, the containers with a
default that is not empty, the useless ones, and the greatest depth. -/
structure Statistics where
  containers : Nat := 0
  values : Nat := 0
  defaults : Nat := 0
  useless : Nat := 0
  maxDepth : Nat := 0
deriving DecidableEq, Repr

namespace Statistics

/-- Count a container at a depth. -/
def addContainer (s : Statistics) (c : Container) (depth : Nat) : Statistics :=
  { s with
    containers := s.containers + 1
    defaults := s.defaults + (if c.hasDefault then 1 else 0)
    useless := s.useless + (if c.isUseless then 1 else 0)
    maxDepth := max s.maxDepth depth }

/-- Count a value. -/
def addValue (s : Statistics) : Statistics := { s with values := s.values + 1 }

/-- The visitor that counts. -/
def visitor : Visitor (StateM Statistics) where
  enter c p := modify fun s => s.addContainer c p.depth
  value _ _ _ := modify addValue
  leave _ _ := pure ()

end Statistics

/-- The counts of a tree. -/
def Container.statistics (c : Container) : Statistics :=
  ((c.walk Statistics.visitor).run {}).2

end ContainerMarkup
