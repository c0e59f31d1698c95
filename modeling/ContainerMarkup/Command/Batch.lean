/-
ContainerMarkup/Command/Batch.lean

Working on many files.  An operation is applied to each file in turn; a
failure does not stop the batch.  Progress is reported after every so many
files and after the last one, and a summary follows.

The results have the order of the files.  From a threshold on the files may
be worked on at the same time, which changes nothing about the results, so
the threshold has no part here beyond its place in the configuration.
-/
import ContainerMarkup.Command.Source
import ContainerMarkup.Number.Binary
import ContainerMarkup.Tree.Statistics

namespace ContainerMarkup

/-! ### Results -/

/-- How a batch is worked on and reported. -/
structure BatchConfig where
  /-- From this many files on they may be worked on at the same time. -/
  parallelThreshold : Nat := 10
  /-- Progress is reported after every so many files; never, if zero. -/
  progressInterval : Nat := 1
  /-- Report each file by name. -/
  verbose : Bool := false
deriving DecidableEq, Repr

/-- What became of one file. -/
structure FileResult (α : Type) where
  path : String
  result : Except CommandError α

/-- Whether the file succeeded. -/
def FileResult.succeeded {α : Type} (r : FileResult α) : Bool :=
  match r.result with
  | .ok _ => true
  | .error _ => false

/-- What became of all files, in order. -/
structure BatchResults (α : Type) where
  results : List (FileResult α)
  /-- How long it took, in milliseconds. -/
  elapsed : Nat

namespace BatchResults

variable {α : Type} (b : BatchResults α)

/-- The number of files. -/
def total : Nat := b.results.length

/-- The files that succeeded. -/
def successes : List (FileResult α) := b.results.filter FileResult.succeeded

/-- The files that failed. -/
def failures : List (FileResult α) := b.results.filter fun r => !r.succeeded

/-- The number of files that succeeded. -/
def successCount : Nat := b.successes.length

/-- The number of files that failed. -/
def failureCount : Nat := b.failures.length

/-- Whether every file succeeded. -/
def allSucceeded : Bool := b.results.all FileResult.succeeded

/-- Whether some file failed. -/
def hasFailures : Bool := b.results.any fun r => !r.succeeded

open Number in
/-- Files per second, as the pattern of a floating-point number: the number
of files by the seconds, both rounded before the division. -/
def throughput : Nat :=
  if b.elapsed == 0 then 0
  else
    let seconds := BinaryFormat.double.divide (BinaryFormat.double.round b.elapsed 1)
      (BinaryFormat.double.round 1000 1)
    BinaryFormat.double.divide (BinaryFormat.double.round b.total 1) seconds

end BatchResults

/-! ### Progress -/

/-- How many files have been worked on, with what success. -/
structure Tally where
  processed : Nat := 0
  succeeded : Nat := 0
  failed : Nat := 0
deriving DecidableEq, Repr

/-- Count a file. -/
def Tally.add (t : Tally) (success : Bool) : Tally :=
  if success then { t with processed := t.processed + 1, succeeded := t.succeeded + 1 }
  else { t with processed := t.processed + 1, failed := t.failed + 1 }

namespace Batch

/-- The mark before a file, by success. -/
def tick (success : Bool) : String := if success then "✓" else "✗"

/-- Whether progress is reported after so many of all files. -/
def reports (config : BatchConfig) (total processed : Nat) : Bool :=
  0 < config.progressInterval && (processed % config.progressInterval == 0 || processed == total)

/-- The line that reports progress. -/
def progressLine (config : BatchConfig) (total : Nat) (t : Tally) (path : String)
    (success : Bool) : String :=
  if config.verbose then s!"{tick success} [{t.processed}/{total}] {path}\n"
  else s!"Progress: [{t.processed}/{total}] {t.succeeded} succeeded, {t.failed} failed\n"

/-- The line that names a failing file in a verbose batch. -/
def failureLine (path : String) (e : CommandError) : String :=
  s!"{tick false} {path} - {e.message}\n"

/-- A line across the summary. -/
def rule : String := String.ofList (List.replicate 60 '═') ++ "\n"

/-- The summary of a batch. -/
def summary (operation elapsed : String) (t : Tally) : String :=
  "\n" ++ rule ++ s!"Batch Operation: {operation}\n" ++ rule ++
    s!"  Total files: {t.processed}\n  Succeeded: {t.succeeded}\n  Failed: {t.failed}\n" ++
      s!"  Elapsed: {elapsed}s\n" ++ rule

/-! ### Working through the files -/

/-- An operation on a file, and its name. -/
structure Operation (m : Type → Type) (α : Type) where
  name : String
  run : String → m (Except CommandError α)

variable {m : Type → Type} [Monad m] [Host m] {α : Type}

/-- Report a file that has just been worked on. -/
def report (config : BatchConfig) (total : Nat) (t : Tally) (r : FileResult α) : m Unit := do
  match r.result with
  | .error e => if config.verbose then Host.complain (failureLine r.path e)
  | .ok _ => pure ()
  if reports config total t.processed then
    Host.complain (progressLine config total t r.path r.succeeded)

/-- Work on files, with the tally of those before; the results come latest
first. -/
def visit (config : BatchConfig) (op : Operation m α) (showProgress : Bool) (total : Nat)
    (t : Tally) (done : List (FileResult α)) : List String → m (Tally × List (FileResult α))
  | [] => pure (t, done)
  | path :: rest => do
    let r : FileResult α := ⟨path, ← op.run path⟩
    let t := t.add r.succeeded
    if showProgress then report config total t r
    visit config op showProgress total t (r :: done) rest

/-- Work on a list of files. -/
def process (config : BatchConfig) (op : Operation m α) (showProgress : Bool)
    (paths : List String) : m (List (FileResult α)) := do
  if paths.isEmpty then return []
  let (t, done) ← visit config op showProgress paths.length {} [] paths
  if showProgress then
    Host.print (summary op.name (← Host.elapsed) t)
  return done.reverse

/-! ### Validation -/

/-- Compile a file and count what is in it. -/
def validateFile (setting : Option String) (path : String) :
    m (Except CommandError Statistics) := do
  let report ← compileFile (Command.optionsFor setting path) path
  Command.logDiagnostics path report.diagnostics
  return (report.result.mapError .compile).map Container.statistics

/-- The operation that validates files. -/
def validation (setting : Option String) : Operation m Statistics :=
  ⟨"validate", validateFile setting⟩

end Batch

end ContainerMarkup
