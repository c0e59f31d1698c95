/-
ContainerMarkup/Failure.lean

Failures.  Every failure has one kind and a chain of layers: the innermost
layer states what went wrong, and each step on the way out may put a layer
around it that says where.  A layer is a message and, optionally, the piece
of input or the name it speaks of.

What can go wrong is a `Cause`; its wording stands in `Cause.message` and
nowhere else.
-/
import ContainerMarkup.Text.Cut

namespace ContainerMarkup

/-! ### Kinds and layers -/

/-- What sort of rule a failure is about. -/
inductive Kind where
  | grammar
  | structural
  | duplicate
  | missingParameter
  | invalidParameter
  | security
  | io
deriving DecidableEq, Repr

/-- The word for a kind in every report. -/
def Kind.label : Kind → String
  | .grammar => "SyntaxError"
  | .structural => "StructureError"
  | .duplicate => "DuplicateError"
  | .missingParameter => "MissingParameterError"
  | .invalidParameter => "InvalidParameterError"
  | .security => "SecurityError"
  | .io => "IOError"

/-- One message of a failure, with what it speaks of. -/
structure Layer where
  message : String
  context : Option String
deriving DecidableEq, Repr

/-- A failure: its kind, its outermost layer and the layers inside it,
outermost first. -/
structure Failure where
  kind : Kind
  outer : Layer
  inner : List Layer
deriving DecidableEq, Repr

namespace Failure

/-! ### Reading a failure -/

/-- All layers, outermost first. -/
def chain (f : Failure) : List Layer := f.outer :: f.inner

/-- The innermost layer: what went wrong in the first place. -/
def rootCause (f : Failure) : Layer := f.inner.getLast?.getD f.outer

/-- The failure on one line: kind, then the messages from the outside in. -/
def message (f : Failure) : String :=
  f.kind.label ++ ": " ++ " -> ".intercalate (f.chain.map Layer.message)

/-- The lines of a report below the kind, each two spaces further in. -/
def reportLayers (depth : Nat) (out : String) : List Layer → String
  | [] => out
  | layer :: rest =>
    reportLayers (depth + 1) (out ++ "\n" ++ Text.indent (depth + 1) ++ layer.message) rest

/-- The failure on several lines: the kind, then one line per layer. -/
def report (f : Failure) : String := reportLayers 0 f.kind.label f.chain

/-! ### Adding to a failure -/

/-- Put a layer with a message and no context around a failure. -/
def wrap (message : String) (f : Failure) : Failure :=
  { kind := f.kind, outer := ⟨message, none⟩, inner := f.chain }

/-- Set the context of the outermost layer. -/
def withContext (context : String) (f : Failure) : Failure :=
  { f with outer := { f.outer with context := some context } }

/-- Put a layer around a failure that says which container it happened in. -/
def inContainer (name : String) (f : Failure) : Failure :=
  (f.wrap s!"An error occurred while processing container: {name}!").withContext name

/-- Put a layer around a failure that speaks of `context`. -/
def within (message context : String) (f : Failure) : Failure :=
  (f.wrap message).withContext context

/-- A layer does not change the cause. -/
theorem rootCause_within (message context : String) (f : Failure) :
    (f.within message context).rootCause = f.rootCause := by
  show (f.outer :: f.inner).getLast?.getD _ = f.inner.getLast?.getD f.outer
  rw [List.getLast?_cons, Option.getD_some]

theorem getLast?_chain (f : Failure) : f.chain.getLast? = some f.rootCause :=
  List.getLast?_cons

theorem rootCause_mem_chain (f : Failure) : f.rootCause ∈ f.chain :=
  List.mem_of_getLast? f.getLast?_chain

end Failure

/-! ### Causes -/

/-- What can go wrong. -/
inductive Cause where
  /-- A group was expected and nothing but blanks was there. -/
  | attributeExpected
  /-- A group does not start with its bracket. -/
  | openerExpected
  /-- A name holds a quote, or a pair has no separator. -/
  | separatorExpected
  /-- A name is blank. -/
  | nameMissing
  /-- A value is blank where one is needed. -/
  | valueMissing
  /-- A container is opened by the very first line. -/
  | headerMissing
  /-- A container is closed and none is open. -/
  | nothingToClose
  /-- A single pair stands outside every container. -/
  | noOpenContainer (group : String)
  /-- The text ends inside a container. -/
  | unclosed (name : String)
  /-- A name is given twice. -/
  | duplicate (name : String)
  /-- A parameter is absent or blank. -/
  | missing (name : String)
  /-- A parameter cannot be read as a value of the type. -/
  | invalid (name value type : String)
  /-- A container would be nested too deeply. -/
  | tooDeep (limit : Nat)
  /-- A container would be one too many. -/
  | tooMany (limit : Nat)
  /-- A text is longer than allowed. -/
  | sourceTooLarge (limit : Nat)
  /-- A file is longer than allowed. -/
  | fileTooLarge (size limit : Nat)
  /-- The size of a file cannot be found out. -/
  | noSize (path reason : String)
  /-- A file cannot be read. -/
  | unreadable (path reason : String)
  /-- Anything else, in its own words. -/
  | stated (kind : Kind) (message : String)
deriving DecidableEq, Repr

namespace Cause

/-- The kind of a cause. -/
def kind : Cause → Kind
  | attributeExpected | openerExpected | separatorExpected | nameMissing | valueMissing => .grammar
  | headerMissing | nothingToClose | noOpenContainer _ | unclosed _ => .structural
  | duplicate _ => .duplicate
  | missing _ => .missingParameter
  | invalid _ _ _ => .invalidParameter
  | tooDeep _ | tooMany _ | sourceTooLarge _ | fileTooLarge _ _ => .security
  | noSize _ _ | unreadable _ _ => .io
  | stated kind _ => kind

/-- The wording of a cause. -/
def message : Cause → String
  | attributeExpected => "Syntax error: expected a attribute."
  | openerExpected => "Syntax error: expected a attribute opener."
  | separatorExpected => "Syntax error: expected a separator."
  | nameMissing => "Null error: name missing."
  | valueMissing => "Null error: value missing."
  | headerMissing => "No header found for container!"
  | nothingToClose => "No container to close"
  | noOpenContainer _ => "No open container for attribute"
  | unclosed name => s!"Unclosed container '{name}'"
  | duplicate name => s!"Attribute with the name '{name}' has already been added."
  | missing name => s!"Could not find parameter: '{name}'!"
  | invalid name value type =>
    s!"Could not process parameter '{name}' to {type}. Value='{value}'!"
  | tooDeep limit => s!"maximum nesting depth exceeded: limit is {limit}"
  | tooMany limit => s!"too many containers: limit is {limit}"
  | sourceTooLarge limit => s!"source too large: exceeds limit of {limit} bytes"
  | fileTooLarge size limit => s!"file too large: {size} bytes exceeds limit of {limit} bytes"
  | noSize path reason => s!"Failed to get metadata for '{path}': {reason}"
  | unreadable path reason => s!"Failed to read '{path}': {reason}"
  | stated _ message => message

/-- The piece of input or the name a cause speaks of. -/
def context : Cause → Option String
  | noOpenContainer group => some group
  | unclosed name | duplicate name | missing name | invalid name _ _ => some name
  | _ => none

/-- The failure with a cause as its only layer. -/
def failure (c : Cause) : Failure :=
  { kind := c.kind, outer := ⟨c.message, c.context⟩, inner := [] }

end Cause

end ContainerMarkup
