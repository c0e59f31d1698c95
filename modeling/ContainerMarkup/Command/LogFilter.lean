/-
ContainerMarkup/Command/LogFilter.lean

Which log entries are shown, and how.  A filter is a list of directives, each
a level and what it is for: the start of a target, and possibly a field.  Of
the directives that are for an entry the most specific one decides; the entry
is shown if it is at least as important as the directive's level.  An entry
that no directive is for is not shown.

A filter is written as directives with commas in between.  A directive is a
level, or a target, a span in brackets with at most one field in braces, and
`=` with a level, of which each may be missing.  Without a level everything is
shown.  The log here has no spans, so a directive that names one, or that asks
for the value of a field, never decides.

The layout of a directive is found without the white space around it.  Its
parts are then cut from the directive as written, at the same places, so white
space in front of a directive shifts its parts.
-/
import ContainerMarkup.Host
import ContainerMarkup.Number.Decimal
import ContainerMarkup.Text.Cut
import ContainerMarkup.Text.Escape
import ContainerMarkup.Text.Pattern

namespace ContainerMarkup

/-- How much is shown: nothing at zero, errors at one, warnings at two,
progress at four, everything at five. -/
abbrev Verbosity := Nat

/-- The verbosity at which everything is shown. -/
def fullVerbosity : Verbosity := 5

/-- The verbosity from which a level is shown. -/
def LogLevel.verbosity : LogLevel → Verbosity
  | .error => 1
  | .warn => 2
  | .debug => 4

/-- A field that a directive asks for: its name, and whether its value counts
too. -/
structure FieldMatch where
  name : String
  asksValue : Bool := false
deriving DecidableEq, Repr

/-- One rule of a filter: what it is for, and how much of that is shown. -/
structure LogDirective where
  target : String := ""
  span : Option String := none
  field : Option FieldMatch := none
  verbosity : Verbosity := fullVerbosity
deriving DecidableEq, Repr

/-- The rules of a filter. -/
abbrev LogFilter := List LogDirective

/-! ### Reading a directive -/

namespace LogDirective

/-- Drop so many bytes; a cut inside a character has no result. -/
def dropBytes? : Nat → List Char → Option (List Char)
  | 0, t => some t
  | _ + 1, [] => none
  | n + 1, c :: rest => if c.utf8Size ≤ n + 1 then dropBytes? (n + 1 - c.utf8Size) rest else none

/-- Take so many bytes; a cut inside a character has no result. -/
def takeBytes? : Nat → List Char → Option (List Char)
  | 0, _ => some []
  | _ + 1, [] => none
  | n + 1, c :: rest =>
    if c.utf8Size ≤ n + 1 then (takeBytes? (n + 1 - c.utf8Size) rest).map (c :: ·) else none

/-- The part of a text between two places, counted in bytes. -/
def part? (t : List Char) (start stop : Nat) : Option String := do
  let rest ← dropBytes? start t
  return String.ofList (← takeBytes? (stop - start) rest)

/-- A verbosity by name or number. -/
def verbosity? (s : String) : Option Verbosity :=
  match Number.natural? fullVerbosity s.toList with
  | some n => some n
  | none => ["off", "error", "warn", "info", "debug", "trace"].findIdx? fun name =>
      name == Text.fold s

/-- Whether a text can be asked for as the value of a field. -/
def isFieldValue (t : List Char) : Bool :=
  (Number.BinaryFormat.double.read? t).isSome || Text.Pattern.isPattern t

/-- Read a field: a name, or a name, `=` and a value. -/
def field? (s : String) : Option FieldMatch :=
  match Text.cut '=' s.toList with
  | [] => none
  | [name] => if name.isEmpty then none else some ⟨String.ofList name, false⟩
  | name :: value :: _ => if isFieldValue value then some ⟨String.ofList name, true⟩ else none

/-- Where in a directive a character stands, and where the part began that it
belongs to. -/
inductive Stage where
  | start
  | target (start : Nat)
  | span (start : Nat)
  | field (start : Nat)
  /-- Behind the field, before the bracket that closes the span. -/
  | afterField
  /-- Behind the span. -/
  | afterSpan
  | level (start : Nat)
deriving DecidableEq, Repr

/-- Whether a directive may start with a character. -/
def startsTarget (c : Char) : Bool :=
  c == '-' || c == ':' || c == '_' || Text.isLetterOrNumber c

/-- Read the character at a place of a text. -/
def step? (t : List Char) (d : LogDirective) (stage : Stage) (i : Nat) (c : Char) :
    Option (LogDirective × Stage) := do
  match stage, c with
  | .start, '[' => return (d, .span (i + 1))
  | .start, _ => if startsTarget c then return (d, .target i) else none
  | .target start, '=' => return ({ d with target := ← part? t start i }, .level (i + 1))
  | .target start, '[' => return ({ d with target := ← part? t start i }, .span (i + 1))
  | .target start, _ => return (d, .target start)
  | .span start, ']' => return ({ d with span := some (← part? t start i) }, .afterSpan)
  | .span start, '\x7b' =>
    let name ← part? t start i
    return ({ d with span := if name.isEmpty then none else some name }, .field (i + 1))
  | .span start, _ => return (d, .span start)
  | .field start, '\x7d' =>
    return ({ d with field := some (← field? (← part? t start i)) }, .afterField)
  | .field start, _ => return (d, .field start)
  | .afterField, ']' => return (d, .afterSpan)
  | .afterField, _ => none
  | .afterSpan, '=' => return (d, .level (i + 1))
  | .afterSpan, _ => none
  | .level start, _ => return (d, .level start)

/-- Complete a directive at the end of a text. -/
def finish? (t : List Char) (d : LogDirective) : Stage → Option LogDirective
  | .target start => do
    let text := String.ofList (← dropBytes? start t)
    match verbosity? text with
    | some v => return { d with verbosity := v }
    | none => return { d with target := text }
  | .level start => do
    let text := String.ofList (← dropBytes? start t)
    if text.isEmpty then return d
    else return { d with verbosity := ← verbosity? text }
  | .afterSpan => some d
  | _ => none

/-- Read the rest of a layout, with its parts cut from a text. -/
def readFrom? (t : List Char) (d : LogDirective) (stage : Stage) (i : Nat) :
    List Char → Option LogDirective
  | [] => finish? t d stage
  | c :: rest =>
    match step? t d stage i c with
    | none => none
    | some (d, stage) => readFrom? t d stage (i + c.utf8Size) rest

/-- Read a directive. -/
def parse? (t : List Char) : Option LogDirective :=
  readFrom? t {} .start 0 (Text.trimChars t)

/-! ### What a directive is for -/

/-- The name under which a filter knows the text of an entry. -/
def textField : String := "message"

/-- Whether a directive is for an entry of a target. -/
def isFor (d : LogDirective) (target : String) (e : LogEntry) : Bool :=
  d.target.toList.isPrefixOf target.toList && d.span.isNone &&
    d.field.all fun f => !f.asksValue && (f.name == e.field || f.name == textField)

/-- The order of directives for one entry from general to specific: by the
length of the target, then by the name of the field, if there is one. -/
def leSpecific (a b : LogDirective) : Bool :=
  let name (d : LogDirective) : String := (d.field.map FieldMatch.name).getD ""
  a.target.length < b.target.length ||
    (a.target.length == b.target.length && decide (name a ≤ name b))

end LogDirective

namespace LogFilter

/-! ### Reading a filter -/

/-- The filter without a directive of its own: only errors are shown. -/
def errorsOnly : LogFilter := [{ verbosity := 1 }]

/-- Read a filter; nothing between two commas is no directive. -/
def parse? (s : String) : Option LogFilter := do
  let pieces := (Text.cut ',' s.toList).filter fun t => !t.isEmpty
  let directives ← pieces.mapM LogDirective.parse?
  return if directives.isEmpty then errorsOnly else directives

/-- The filter in force when no other is asked for. -/
def standard (debug : Bool) : LogFilter :=
  if debug then
    [{ target := "mm_core", verbosity := 4 }, { target := "mm_cli", verbosity := 4 }]
  else [{ verbosity := 2 }]

/-- The filter that a setting asks for, if it can be read. -/
def choose (setting : Option String) (debug : Bool) : LogFilter :=
  (setting.bind parse?).getD (standard debug)

/-! ### Applying a filter -/

/-- The target of every entry that commands log. -/
def commandTarget : String := "mm_cli::commands"

/-- The rule that decides for an entry: the last of the most specific ones. -/
def deciding? (filter : LogFilter) (target : String) (e : LogEntry) : Option LogDirective :=
  (filter.filter fun d => d.isFor target e).foldl (fun best d =>
    if best.all fun b => b.leSpecific d then some d else best) none

/-- Whether an entry is shown. -/
def shows (filter : LogFilter) (e : LogEntry) : Bool :=
  (filter.deciding? commandTarget e).any fun d => e.level.verbosity ≤ d.verbosity

end LogFilter

/-! ### The lines of a log -/

/-- A log entry as a line, with the time it was made. -/
def LogEntry.line (time : String) (e : LogEntry) : String :=
  let level := String.ofList (List.replicate (5 - e.level.label.length) ' ') ++ e.level.label
  s!"{time} {level} {Text.tame e.text} {e.field}={Text.quote e.value}\n"

/-- The stream for complaints with the entries of the log that are shown. -/
def World.terminal (filter : LogFilter) (time : String) (w : World) : String :=
  w.events.foldl (fun out e => match e with
    | .complain text => out ++ text
    | .log entry => if filter.shows entry then out ++ entry.line time else out
    | .print _ => out) ""

end ContainerMarkup
