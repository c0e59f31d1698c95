/-
ContainerMarkup/Import.lean

Compiling a file.  The size of the file is checked before it is read.  Every
failure gets a layer that names the file; a failure to read is not among the
diagnostics.
-/
import ContainerMarkup.Compile
import ContainerMarkup.Host

namespace ContainerMarkup

namespace Import

/-- Put the layer around a failure that names the file it is in. -/
def inFile (path : String) (f : Failure) : Failure :=
  f.within s!"An error occurred while importing '{Path.displayName path}'." path

/-- The first thing said of a file. -/
def opening (path : String) : Diagnostic :=
  Report.message s!"Importing: {Path.displayName path}."

/-- The options of a file: without another name it goes by its path. -/
def optionsFor (options : Options) (path : String) : Options :=
  if options.sourceName == memoryName then { options with sourceName := path } else options

variable {m : Type → Type} [Monad m] [Host m]

/-- Read a file that is not too large. -/
def readSource (limits : Limits) (path : String) : m (Except Failure String) := do
  match ← Host.fileSize path with
  | .error fault => return .error (Cause.noSize path fault.message).failure
  | .ok size =>
    if limits.fileSize < size then
      return .error (Cause.fileTooLarge size limits.fileSize).failure
    else
      match ← Host.fileText path with
      | .error fault => return .error (Cause.unreadable path fault.message).failure
      | .ok text => return .ok text

end Import

open Import in
/-- Compile a file. -/
def compileFile {m : Type → Type} [Monad m] [Host m] (options : Options) (path : String) :
    m Report := do
  match ← readSource options.limits path with
  | .error f => return ⟨.error (inFile path f), [opening path]⟩
  | .ok text =>
    let report := compile (optionsFor options path) text
    return ⟨report.result.mapError (inFile path), opening path :: report.diagnostics⟩

end ContainerMarkup
