/-
ContainerMarkup/Assembly.lean

From lines to a tree.  An assembly holds the root as it is so far and the
containers that are open, innermost first; a child joins its parent when it
is closed.

* The opening line takes the line before it as a header.
* The closing line closes the innermost container.
* A line right before an opening line is left for it, and so is the last
  line.  Any other line holds groups: a group of one pair is a value of the
  innermost container, a group of several pairs a container of its own that
  is closed at once.

Opening a container while none is open gives the root a new name, default
and values and keeps the children it has.

`Assembly.step` handles one line, given the line before it and the line
after it, and `Assembly.run` goes through a list of lines up to the first
failure.
-/
import ContainerMarkup.Limits
import ContainerMarkup.Source.Group
import ContainerMarkup.Source.Line
import ContainerMarkup.Tree.Container

namespace ContainerMarkup

open Source

/-- A tree in the making. -/
structure Assembly where
  /-- The outermost container closed last. -/
  root : Container := Container.empty
  /-- The open containers, innermost first. -/
  stack : List Container := []
  /-- How many containers have been opened. -/
  created : Nat := 0
  /-- Whether a line was left for an opening line since the last brace. -/
  deferred : Bool := false
  /-- What was said on the way, latest first. -/
  warnings : List String := []

namespace Assembly

/-! ### Failures and warnings -/

/-- Put the layer around a failure that names the header it is in. -/
def inHeader (header : String) (f : Failure) : Failure :=
  f.within s!"An error occurred while starting a container with the header '{header}'" header

/-- Put the layer around a failure that names the line it is in. -/
def inLine (line : String) (f : Failure) : Failure :=
  f.within s!"An error occurred while processing line '{line}'" line

/-- The warning that a line was left out. -/
def skippedLine (line : String) : String := s!"Skipped line '{line}'!"

/-! ### Opening and closing -/

/-- The container a group describes, still without children. -/
def containerOf (g : Group) : Except Failure Container := do
  let values ← Values.empty.insertAll (g.others.map fun a => (a.name, a.value))
  let default := if g.lead.value.isEmpty then none else some g.lead.value
  return ⟨g.lead.name, default, values, []⟩

/-- Open a container.  Its values are checked first, then the depth, then the
number of containers. -/
def openGroup (limits : Limits) (g : Group) (s : Assembly) : Except Failure Assembly := do
  let c ← containerOf g
  if limits.depth ≤ s.stack.length then
    throw (Cause.tooDeep limits.depth).failure
  if limits.containers < s.created + 1 then
    throw (Cause.tooMany limits.containers).failure
  let opened := if s.stack.isEmpty then { c with children := s.root.children } else c
  return { s with stack := opened :: s.stack, created := s.created + 1 }

/-- Close the innermost container. -/
def close (s : Assembly) : Except Failure Assembly :=
  match s.stack with
  | [] => .error Cause.nothingToClose.failure
  | [closed] => .ok { s with root := closed, stack := [] }
  | closed :: parent :: rest => .ok { s with stack := parent.addChild closed :: rest }

/-! ### Lines with groups -/

/-- The groups of a line, each with its bracket. -/
def groupsOf (line : String) : List String :=
  ((Text.cut '[' line.toList).filter fun piece => !piece.isEmpty).map fun piece =>
    String.ofList ('[' :: piece)

/-- Add a value to the innermost container. -/
def addValue (group : String) (a : Attribute) (s : Assembly) : Except Failure Assembly :=
  match s.stack with
  | [] => .error (Cause.noOpenContainer group).failure
  | top :: rest => do
    let values ← top.values.insert a.name a.value
    return { s with stack := { top with values := values } :: rest }

/-- Handle one group of a line. -/
def addGroup (limits : Limits) (s : Assembly) (group : String) : Except Failure Assembly := do
  let g ← Group.read false group
  if g.others.isEmpty then s.addValue group g.lead
  else
    let opened ← (s.openGroup limits g).mapError (inHeader group)
    opened.close

/-- Handle a line of groups. -/
def addLine (limits : Limits) (line : String) (s : Assembly) : Except Failure Assembly :=
  (groupsOf line).foldlM (addGroup limits) s

/-! ### Lines -/

/-- Open a container under the line before. -/
def openUnder (limits : Limits) (previous : Option String) (s : Assembly) :
    Except Failure Assembly :=
  match previous with
  | none => .error Cause.headerMissing.failure
  | some header =>
    (Group.read true header >>= fun g => s.openGroup limits g).mapError (inHeader header)

/-- Leave a line for an opening line. -/
def defer (line : String) (s : Assembly) : Assembly :=
  { s with
    deferred := true
    warnings := if s.deferred then skippedLine line :: s.warnings else s.warnings }

/-- Handle one line, given the line before it and the line after it. -/
def step (limits : Limits) (previous : Option String) (line : String) (next : Option String)
    (s : Assembly) : Except Failure Assembly :=
  if line == opener then { s with deferred := false }.openUnder limits previous
  else if line == closer then { s with deferred := false }.close
  else
    match next with
    | some following => if following == opener then .ok (s.defer line) else s.addLine limits line
    | none => .ok (s.defer line)

/-- Handle lines up to the first failure, given the line before them. -/
def run (limits : Limits) (previous : Option String) (s : Assembly) :
    List String → Assembly × Option Failure
  | [] => (s, none)
  | line :: rest =>
    match s.step limits previous line rest.head? with
    | .ok next => run limits (some line) next rest
    | .error f => (s, some (inLine line f))

/-- The tree, if every container has been closed. -/
def finish (s : Assembly) : Except Failure Container :=
  match s.stack with
  | [] => .ok s.root
  | c :: _ => .error (Cause.unclosed c.name).failure

end Assembly

/-! ### The tree of a list of lines -/

/-- The tree of a list of lines, and the warnings given on the way. -/
structure Assembled where
  result : Except Failure Container
  warnings : List String

/-- Assemble lines into a tree. -/
def assemble (limits : Limits) (lines : List String) : Assembled :=
  let (s, failure) := Assembly.run limits none {} lines
  let result := match failure with
    | some f => .error f
    | none => s.finish
  ⟨result, s.warnings.reverse⟩

end ContainerMarkup
