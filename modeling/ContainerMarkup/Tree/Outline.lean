/-
ContainerMarkup/Tree/Outline.lean

A tree as indented text.  Each container is a line: its name, its default if
it is set, and how many values it has.  A detailed outline has a line for
each value below its container, one level further in.
-/
import ContainerMarkup.Text.Cut
import ContainerMarkup.Tree.Walk

namespace ContainerMarkup

namespace Outline

/-- A container's name and default in brackets. -/
def title (c : Container) : String :=
  match c.default with
  | some d => s!"[{c.name}:{d}]"
  | none => s!"[{c.name}]"

/-- How many values there are, if any. -/
def valueCount : Nat → String
  | 0 => ""
  | 1 => " (1 value)"
  | n => s!" ({n} values)"

/-- The line of a container. -/
def containerLine (c : Container) (depth : Nat) : String :=
  Text.indent depth ++ title c ++ valueCount c.values.size ++ "\n"

/-- The line of a value. -/
def valueLine (name text : String) (depth : Nat) : String :=
  Text.indent depth ++ name ++ " = \"" ++ text ++ "\"\n"

/-- The visitor that writes the outline. -/
def visitor (detailed : Bool) : Visitor (StateM String) where
  enter c p := modify fun out => out ++ containerLine c p.depth
  value name text p :=
    if detailed then modify fun out => out ++ valueLine name text p.depth else pure ()
  leave _ _ := pure ()

end Outline

/-- The outline of a tree. -/
def Container.outline (detailed : Bool) (c : Container) : String :=
  ((c.walk (Outline.visitor detailed)).run "").2

end ContainerMarkup
