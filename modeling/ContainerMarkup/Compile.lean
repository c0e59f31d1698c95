/-
ContainerMarkup/Compile.lean

Compiling a text: condense it, take its lines, assemble the tree.  The size
of the text is checked before anything else.  A report holds the result and
everything that was said on the way, in order; a failure is the last thing
said.
-/
import ContainerMarkup.Assembly
import ContainerMarkup.Diagnostic
import ContainerMarkup.Source.Condensed

namespace ContainerMarkup

/-- The result of a compile and its diagnostics. -/
structure Report where
  result : Except Failure Container
  diagnostics : List Diagnostic

namespace Report

/-- A progress message. -/
def message (text : String) : Diagnostic := ⟨.message, text⟩

/-- A warning. -/
def warning (text : String) : Diagnostic := ⟨.warning, text⟩

/-- The last words of a failing compile. -/
def fatal (f : Failure) : Diagnostic := ⟨.error, "An error occurred: " ++ f.report⟩

/-- What is said after a result is known. -/
def closing : Except Failure Container → Diagnostic
  | .ok _ => message "Finished converting."
  | .error f => fatal f

end Report

open Report in
/-- Compile a text within its limits. -/
def compile (options : Options) (text : String) : Report :=
  if options.limits.fileSize < text.utf8ByteSize then
    let f := (Cause.sourceTooLarge options.limits.fileSize).failure
    ⟨.error f, [fatal f]⟩
  else
    let condensed := Source.condense text
    let assembled := assemble options.limits (Source.lines condensed.text)
    ⟨assembled.result,
      message "Starting text compression." ::
        (condensed.warnings.map fun w => warning w.message) ++
          [message "Finished text compression.", message "Started converting."] ++
            assembled.warnings.map warning ++ [closing assembled.result]⟩

end ContainerMarkup
