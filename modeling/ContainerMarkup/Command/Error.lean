/-
ContainerMarkup/Command/Error.lean

Why a command fails, and how it says so.
-/
import ContainerMarkup.Failure
import ContainerMarkup.Json.Fault

namespace ContainerMarkup

/-- Why a command fails. -/
inductive CommandError where
  /-- A file cannot be looked up, read or written. -/
  | io (path message : String)
  /-- A file is larger than allowed. -/
  | fileTooLarge (path : String) (size limit : Nat)
  /-- A text does not compile. -/
  | compile (failure : Failure)
  /-- A tree cannot be made into JSON. -/
  | jsonConversion (message : String)
  /-- JSON cannot be written. -/
  | jsonFormat (fault : Json.Fault)
  /-- Some files of several failed. -/
  | batchFailed (failed total : Nat)
  /-- There is nothing to work on. -/
  | invalidInput (message : String)
deriving DecidableEq, Repr

/-- The number of bytes in a megabyte. -/
def megabyte : Nat := 1024 * 1024

/-- The wording of a command's failure. -/
def CommandError.message : CommandError → String
  | .io path message => s!"I/O error for '{path}': {message}"
  | .fileTooLarge path size limit =>
    s!"File '{path}' is too large ({size} bytes). Maximum allowed: {limit} bytes ({limit / megabyte} MB)"
  | .compile failure => "Compile error: " ++ failure.message
  | .jsonConversion message => s!"JSON conversion error: {message}"
  | .jsonFormat fault => "JSON format error: " ++ fault.message
  | .batchFailed failed total => s!"{failed} of {total} files failed validation"
  | .invalidInput message => s!"Invalid input: {message}"

end ContainerMarkup
