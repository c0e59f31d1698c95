/-
ContainerMarkup/Diagnostic.lean

What a compile says on its way, and who hears it.  A compile returns its
diagnostics in order; a listener is a function of that list.

* Nobody: the list is dropped.
* The log: each diagnostic becomes an entry, tagged with a field that names
  the text or the file.
* Some channels: only the severities asked for are heard.
-/
namespace ContainerMarkup

/-! ### Diagnostics -/

/-- How serious a diagnostic is. -/
inductive Severity where
  /-- Progress. -/
  | message
  /-- A problem the compile can pass over. -/
  | warning
  /-- The failure that ends the compile. -/
  | error
deriving DecidableEq, Repr

/-- The name of a severity. -/
def Severity.label : Severity → String
  | .message => "message"
  | .warning => "warning"
  | .error => "error"

/-- One thing a compile says. -/
structure Diagnostic where
  severity : Severity
  text : String
deriving DecidableEq, Repr

/-- The texts of one severity, in order. -/
def Diagnostic.ofSeverity (severity : Severity) (ds : List Diagnostic) : List String :=
  (ds.filter (·.severity == severity)).map Diagnostic.text

/-! ### The log -/

/-- The importance of a log entry. -/
inductive LogLevel where
  | debug
  | warn
  | error
deriving DecidableEq, Repr

/-- The name of a level. -/
def LogLevel.label : LogLevel → String
  | .debug => "DEBUG"
  | .warn => "WARN"
  | .error => "ERROR"

/-- The level at which a severity is logged. -/
def Severity.level : Severity → LogLevel
  | .message => .debug
  | .warning => .warn
  | .error => .error

/-- One entry of the log: a text and a named field. -/
structure LogEntry where
  level : LogLevel
  text : String
  field : String
  value : String
deriving DecidableEq, Repr

/-- A diagnostic as a log entry. -/
def Diagnostic.logged (field value : String) (d : Diagnostic) : LogEntry :=
  ⟨d.severity.level, d.text, field, value⟩

/-- The entry that tags a diagnostic with the name of its text. -/
def Diagnostic.loggedFrom (source : String) (d : Diagnostic) : LogEntry :=
  d.logged "source" source

/-! ### Channels -/

/-- The severities a listener asks for. -/
structure Channels where
  message : Bool := false
  warning : Bool := false
  error : Bool := false
deriving DecidableEq, Repr

/-- Whether a listener asks for a severity. -/
def Channels.hears (c : Channels) : Severity → Bool
  | .message => c.message
  | .warning => c.warning
  | .error => c.error

/-- The diagnostics a listener hears, in order. -/
def Channels.heard (c : Channels) (ds : List Diagnostic) : List Diagnostic :=
  ds.filter fun d => c.hears d.severity

/-- A truth value as a lower-case word. -/
def truthWord (b : Bool) : String := if b then "true" else "false"

/-- A description of a listener by its channels. -/
def Channels.describe (c : Channels) : String :=
  "CallbackSink \x7b on_message: " ++ truthWord c.message ++ ", on_warning: " ++
    truthWord c.warning ++ ", on_error: " ++ truthWord c.error ++ " \x7d"

end ContainerMarkup
