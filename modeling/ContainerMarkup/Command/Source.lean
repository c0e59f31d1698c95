/-
ContainerMarkup/Command/Source.lean

How commands get at their texts.  The size limit may be set from outside; a
setting that is no number leaves the standard limit in force.  Progress and
warnings of a compile go to the log, tagged with the file; its failure does
not, since the command reports it itself.
-/
import ContainerMarkup.Command.Error
import ContainerMarkup.Import
import ContainerMarkup.Number.Whole

namespace ContainerMarkup.Command

/-! ### Settings -/

/-- The size limit that a setting asks for. -/
def sizeLimit (setting : Option String) : Nat :=
  (setting.bind fun s => Number.natural? maxWord s.toList).getD Limits.standard.fileSize

/-- The options with which commands compile a file. -/
def optionsFor (setting : Option String) (file : String) : Options :=
  { limits := { Limits.standard with fileSize := sizeLimit setting }, sourceName := file }

/-- The channels of a compile that commands listen to. -/
def channels : Channels := { message := true, warning := true }

/-! ### Reading, compiling and writing -/

variable {m : Type → Type} [Monad m] [Host m]

/-- Log what a compile said about a file. -/
def logDiagnostics (file : String) (ds : List Diagnostic) : m Unit :=
  (channels.heard ds).forM fun d => Host.log (d.logged "file" file)

/-- Read a file that is not too large. -/
def loadFile (setting : Option String) (path : String) : m (Except CommandError String) := do
  match ← Host.fileSize path with
  | .error fault => return .error (.io path fault.message)
  | .ok size =>
    if sizeLimit setting < size then
      return .error (.fileTooLarge path size (sizeLimit setting))
    else
      match ← Host.fileText path with
      | .error fault => return .error (.io path fault.message)
      | .ok text => return .ok text

/-- Read and compile a file. -/
def compilePath (setting : Option String) (file : String) :
    m (Except CommandError Container) := do
  match ← loadFile setting file with
  | .error e => return .error e
  | .ok text =>
    let report := compile (optionsFor setting file) text
    logDiagnostics file report.diagnostics
    return report.result.mapError .compile

/-- Write a text to a file, or say it. -/
def writeOutput (text : String) (path : Option String) : m (Except CommandError Unit) := do
  match path with
  | none =>
    Host.print text
    return .ok ()
  | some p =>
    match ← Host.writeFile p text with
    | .ok () => return .ok ()
    | .error fault => return .error (.io p fault.message)

end ContainerMarkup.Command
