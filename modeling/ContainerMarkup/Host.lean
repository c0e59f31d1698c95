/-
ContainerMarkup/Host.lean

What a command needs from where it runs: files to look up, read and write,
two streams of text, a log and a clock.  A host is a monad with these
actions.

`World` is a host in memory: a disk as a value and the list of what was
said, in order.  It runs as a state monad, so what a command does there is a
function of the disk.
-/
import ContainerMarkup.Diagnostic
import ContainerMarkup.Disk.Store

namespace ContainerMarkup

/-- The actions of a host. -/
class Host (m : Type → Type) where
  /-- The size of a file in bytes. -/
  fileSize : String → m (Except Fault Nat)
  /-- The text of a file. -/
  fileText : String → m (Except Fault String)
  /-- Write a file. -/
  writeFile : String → String → m (Except Fault Unit)
  /-- Say something on the stream for results. -/
  print : String → m Unit
  /-- Say something on the stream for complaints. -/
  complain : String → m Unit
  /-- Say something in the log. -/
  log : LogEntry → m Unit
  /-- The seconds since the command started, as text. -/
  elapsed : m String

/-! ### A host in memory -/

/-- Something said. -/
inductive Event where
  | print (text : String)
  | complain (text : String)
  | log (entry : LogEntry)
deriving DecidableEq, Repr

/-- A disk, what was said, latest first, and what the clock shows. -/
structure World where
  store : Store := {}
  said : List Event := []
  clock : String := "0.00"

namespace World

/-- What was said, in order. -/
def events (w : World) : List Event := w.said.reverse

/-- Say one thing more. -/
def say (e : Event) : StateM World Unit := modify fun w => { w with said := e :: w.said }

/-- Write a file; a refused write changes nothing. -/
def writeFile (path text : String) : StateM World (Except Fault Unit) := do
  let w ← get
  match w.store.write path text with
  | .ok store =>
    set { w with store := store }
    return .ok ()
  | .error fault => return .error fault

instance : Host (StateM World) where
  fileSize path := return (← get).store.fileSize path
  fileText path := return (← get).store.fileText path
  writeFile := writeFile
  print text := say (.print text)
  complain text := say (.complain text)
  log entry := say (.log entry)
  elapsed := return (← get).clock

/-- All that was said on the stream for results. -/
def printed (w : World) : String :=
  w.events.foldl (fun out e => match e with
    | .print text => out ++ text
    | _ => out) ""

/-- All that was said on the stream for complaints. -/
def complaints (w : World) : String :=
  w.events.foldl (fun out e => match e with
    | .complain text => out ++ text
    | _ => out) ""

/-- The log. -/
def logged (w : World) : List LogEntry :=
  w.events.filterMap fun e => match e with
    | .log entry => some entry
    | _ => none

end World

end ContainerMarkup
