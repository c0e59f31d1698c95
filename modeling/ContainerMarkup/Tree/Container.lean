/-
ContainerMarkup/Tree/Container.lean

Containers.  A container has a name, optionally a default value, values under
names, and child containers in document order.  Recursion over a tree is a
pair of functions, one on a container and one on a list of children.
-/
import ContainerMarkup.Text.Blank
import ContainerMarkup.Tree.Values

namespace ContainerMarkup

/-- A named node with values and child containers. -/
structure Container where
  name : String
  default : Option String
  values : Values
  children : List Container

namespace Container

/-- The container without name, default, values and children. -/
def empty : Container := ⟨"", none, Values.empty, []⟩

instance : Inhabited Container := ⟨empty⟩

/-! ### Equality -/

mutual
/-- Decide whether two containers are the same. -/
def decEq : (a b : Container) → Decidable (a = b)
  | ⟨n₁, d₁, v₁, c₁⟩, ⟨n₂, d₂, v₂, c₂⟩ =>
    if h : n₁ = n₂ ∧ d₁ = d₂ ∧ v₁ = v₂ then
      match decEqAll c₁ c₂ with
      | isTrue hc => isTrue (by rw [h.1, h.2.1, h.2.2, hc])
      | isFalse hc => isFalse (by intro e; cases e; exact hc rfl)
    else isFalse (by intro e; cases e; exact h ⟨rfl, rfl, rfl⟩)

/-- Decide whether two lists of containers are the same. -/
def decEqAll : (as bs : List Container) → Decidable (as = bs)
  | [], [] => isTrue rfl
  | [], _ :: _ => isFalse (by intro e; cases e)
  | _ :: _, [] => isFalse (by intro e; cases e)
  | a :: as, b :: bs =>
    match decEq a b with
    | isTrue h =>
      match decEqAll as bs with
      | isTrue hs => isTrue (by rw [h, hs])
      | isFalse hs => isFalse (by intro e; cases e; exact hs rfl)
    | isFalse h => isFalse (by intro e; cases e; exact h rfl)
end

instance : DecidableEq Container := decEq

/-! ### Questions -/

/-- Whether the default is set and not empty. -/
def hasDefault (c : Container) : Bool := c.default.any fun d => !d.isEmpty

/-- Whether the name is blank, or there are neither values nor children. -/
def isUseless (c : Container) : Bool :=
  Text.isBlank c.name || (c.values.isEmpty && c.children.isEmpty)

/-- The first child with a name. -/
def child? (c : Container) (name : String) : Option Container :=
  c.children.find? fun k => Text.sameName k.name name

/-- All children with a name, in order. -/
def childrenNamed (c : Container) (name : String) : List Container :=
  c.children.filter fun k => Text.sameName k.name name

/-- A container on one line: its name and how much is in it. -/
def summary (c : Container) : String :=
  s!"Name={c.name}, NumValues={c.values.size}, NumChilds={c.children.length}"

/-! ### Changes -/

/-- Append a child. -/
def addChild (c child : Container) : Container := { c with children := c.children ++ [child] }

/-- The container reached by choosing a child by position at each step. -/
def descendant? (c : Container) : List Nat → Option Container
  | [] => some c
  | i :: rest => c.children[i]?.bind fun child => child.descendant? rest

/-- Change the container reached by choosing a child by position at each
step; nothing changes if there is none. -/
def modifyAt (change : Container → Container) (c : Container) : List Nat → Container
  | [] => change c
  | i :: rest =>
    { c with children := c.children.modify i fun child => child.modifyAt change rest }

/-! ### Preorder -/

mutual
/-- The containers of a tree, each before its children, with their depth. -/
def preorder (depth : Nat) : Container → List (Nat × Container)
  | ⟨n, d, v, children⟩ => (depth, ⟨n, d, v, children⟩) :: preorderAll (depth + 1) children

/-- The containers of several trees, one tree after the other. -/
def preorderAll (depth : Nat) : List Container → List (Nat × Container)
  | [] => []
  | c :: rest => preorder depth c ++ preorderAll depth rest
end

end Container

end ContainerMarkup
