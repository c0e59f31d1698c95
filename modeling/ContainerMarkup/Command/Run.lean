/-
ContainerMarkup/Command/Run.lean

The commands.

* `validate` compiles a file and says what is in it.
* `inspect` prints the outline of a file.
* `toJson` prints a file as JSON, or writes it to another file.
* `batchValidate` validates many files.
-/
import ContainerMarkup.Command.Batch
import ContainerMarkup.Json.Export
import ContainerMarkup.Tree.Outline

namespace ContainerMarkup

/-- A command and its arguments. -/
inductive Command where
  | validate (file : String)
  | inspect (file : String) (verbose : Bool)
  | toJson (file : String) (output : Option String) (compact prune : Bool)
  | batchValidate (files : List String) (parallel verbose : Bool)
deriving DecidableEq, Repr

namespace Command

variable {m : Type → Type} [Monad m] [Host m]

/-- What is said of a file that compiles. -/
def validReport (file : String) (root : Container) : String :=
  let s := root.statistics
  s!"{Batch.tick true} {file}\n  Root: {root.name}\n  Containers: {s.containers}\n" ++
    s!"  Values: {s.values}\n  Max depth: {s.maxDepth}\n"

/-- Validate a file. -/
def runValidate (setting : Option String) (file : String) : m (Except CommandError Unit) := do
  match ← compilePath setting file with
  | .error e =>
    Host.print s!"{Batch.tick false} {file}\n"
    return .error e
  | .ok root =>
    Host.print (validReport file root)
    return .ok ()

/-- Print the outline of a file. -/
def runInspect (setting : Option String) (file : String) (verbose : Bool) :
    m (Except CommandError Unit) := do
  match ← compilePath setting file with
  | .error e => return .error e
  | .ok root =>
    Host.print "MM Container Tree\n\n"
    Host.print (root.outline verbose)
    return .ok ()

/-- Print or write a file as JSON. -/
def runToJson (setting : Option String) (file : String) (output : Option String)
    (compact prune : Bool) : m (Except CommandError Unit) := do
  match ← compilePath setting file with
  | .error e => return .error e
  | .ok root =>
    let config : ExportConfig := { pruneUseless := prune, pretty := !compact }
    writeOutput (root.jsonText config ++ "\n") output

/-- What is said of a file that failed in a batch. -/
def failureReport (r : FileResult Statistics) : String :=
  match r.result with
  | .error e => s!"  {Batch.tick false} {r.path}\n    {e.message}\n"
  | .ok _ => ""

/-- Validate many files. -/
def runBatchValidate (setting : Option String) (files : List String) (parallel verbose : Bool) :
    m (Except CommandError Unit) := do
  if files.isEmpty then return .error (.invalidInput "no files given")
  let config : BatchConfig :=
    { parallelThreshold := if parallel then 1 else maxWord, verbose := verbose }
  let results : BatchResults Statistics :=
    ⟨← Batch.process config (Batch.validation setting) true files, 0⟩
  if results.hasFailures then
    Host.complain "\nValidation failures:\n"
    results.failures.forM fun r => Host.complain (failureReport r)
    return .error (.batchFailed results.failureCount results.total)
  else return .ok ()

/-- Carry out a command under a setting of the size limit. -/
def run (setting : Option String) : Command → m (Except CommandError Unit)
  | .validate file => runValidate setting file
  | .inspect file verbose => runInspect setting file verbose
  | .toJson file output compact prune => runToJson setting file output compact prune
  | .batchValidate files parallel verbose => runBatchValidate setting files parallel verbose

end Command

end ContainerMarkup
