/-
ContainerMarkup/Tree/Walk.lean

Walking a tree.  A visitor is called for each container before and after what
is in it, and for each value; values come before children, children in
document order.  The calls are actions of a monad, so a visitor may keep a
state and may fail, and the walk ends with the first call that fails.

`Container.visits` lists the calls of a walk that nothing stops.
-/
import ContainerMarkup.Tree.Container

namespace ContainerMarkup

/-! ### Places -/

/-- Where in a tree a call is made: the depth, and the names of the enclosing
containers, innermost first. -/
structure Place where
  depth : Nat := 0
  around : List String := []
deriving DecidableEq, Repr

/-- The place inside a container with a name. -/
def Place.inside (p : Place) (name : String) : Place := ⟨p.depth + 1, name :: p.around⟩

/-- The names of the enclosing containers, the root first. -/
def Place.path (p : Place) : List String := p.around.reverse

@[simp] theorem Place.path_inside (p : Place) (name : String) :
    (p.inside name).path = p.path ++ [name] := by
  simp [Place.path, Place.inside]

/-- The path with points in between; the empty one is called `root`. -/
def Place.pathText (p : Place) : String :=
  if p.path.isEmpty then "root" else ".".intercalate p.path

/-! ### Visitors -/

/-- What to do at the points of a walk. -/
structure Visitor (m : Type → Type) where
  /-- Before the values and children of a container. -/
  enter : Container → Place → m Unit
  /-- At a value, by name. -/
  value : String → String → Place → m Unit
  /-- After the values and children of a container. -/
  leave : Container → Place → m Unit

/-- The visitor that does nothing. -/
def Visitor.idle (m : Type → Type) [Monad m] : Visitor m :=
  ⟨fun _ _ => pure (), fun _ _ _ => pure (), fun _ _ => pure ()⟩

/-- One call of a visitor. -/
inductive Visit where
  | enter (c : Container) (p : Place)
  | value (name text : String) (p : Place)
  | leave (c : Container) (p : Place)

/-- Make a call. -/
def Visitor.call {m : Type → Type} (v : Visitor m) : Visit → m Unit
  | .enter c p => v.enter c p
  | .value name text p => v.value name text p
  | .leave c p => v.leave c p

/-! ### The walk -/

variable {m : Type → Type} [Monad m]

mutual
/-- Walk the tree of a container that stands at a place. -/
def Container.walkAt (v : Visitor m) (p : Place) : Container → m Unit
  | ⟨name, default, values, children⟩ => do
    v.enter ⟨name, default, values, children⟩ p
    values.entries.forM fun e => v.value e.name e.value (p.inside name)
    Container.walkAll v (p.inside name) children
    v.leave ⟨name, default, values, children⟩ p

/-- Walk several trees, one after the other. -/
def Container.walkAll (v : Visitor m) (p : Place) : List Container → m Unit
  | [] => pure ()
  | c :: rest => do
    Container.walkAt v p c
    Container.walkAll v p rest
end

/-- Walk a tree from its root. -/
def Container.walk (v : Visitor m) (c : Container) : m Unit := c.walkAt v {}

/-! ### The calls -/

mutual
/-- The calls of a walk over the tree of a container at a place. -/
def Container.visitsAt (p : Place) : Container → List Visit
  | ⟨name, default, values, children⟩ =>
    .enter ⟨name, default, values, children⟩ p ::
      ((values.entries.map fun e => .value e.name e.value (p.inside name)) ++
        (Container.visitsAll (p.inside name) children ++
          [.leave ⟨name, default, values, children⟩ p]))

/-- The calls of a walk over several trees. -/
def Container.visitsAll (p : Place) : List Container → List Visit
  | [] => []
  | c :: rest => Container.visitsAt p c ++ Container.visitsAll p rest
end

/-- The calls of a walk from the root. -/
def Container.visits (c : Container) : List Visit := c.visitsAt {}

end ContainerMarkup
