/-
ContainerMarkup/Main.lean

The program on a real machine.  A terminal is the host made of the machine's
files and streams: each action is one call of the system, and faults are
named as in `Fault`.
-/
import ContainerMarkup.Command.LogFilter
import ContainerMarkup.Command.Program

namespace ContainerMarkup

/-- What a terminal knows: which log entries it shows, when it started, in
milliseconds, and the size that its machine gives for a folder. -/
structure TerminalSettings where
  filter : LogFilter
  started : Nat
  folderSize : Nat := 4096

/-- Actions on a terminal. -/
abbrev Terminal := ReaderT TerminalSettings IO

namespace Terminal

/-- The fault that the system reports. -/
def faultOf : IO.Error → Fault
  | .noFileOrDirectory .. => .notFound
  | .inappropriateType .. => .isFolder
  | e => .stated (toString e)

/-- Run an action of the system and name its fault. -/
def attempt {α : Type} (action : IO α) : IO (Except Fault α) := do
  match ← action.toBaseIO with
  | .ok a => return .ok a
  | .error e => return .error (faultOf e)

/-- The bytes of a file. -/
def fileBytes (path : String) : IO (Except Fault ByteArray) :=
  if path.toList.contains '\x00' then return .error .zeroByte
  else attempt (IO.FS.readBinFile path)

/-- Milliseconds as seconds with two places. -/
def seconds (milliseconds : Nat) : String :=
  let hundredths := (milliseconds + 5) / 10
  let places := toString (hundredths % 100)
  s!"{hundredths / 100}." ++ (if places.length < 2 then "0" ++ places else places)

/-- The seconds since the start. -/
def sinceStart : Terminal String := do
  let now ← IO.monoMsNow
  return seconds (now - (← read).started)

instance : Host Terminal where
  fileSize path := do
    match ← fileBytes path with
    | .ok content => return .ok content.size
    | .error .isFolder => return .ok (← read).folderSize
    | .error fault => return .error fault
  fileText path := do
    match ← fileBytes path with
    | .ok content => return ((String.fromUTF8? content).map .ok).getD (.error .notText)
    | .error fault => return .error fault
  writeFile path text := attempt (IO.FS.writeFile path text)
  print text := IO.print text
  complain text := IO.eprint text
  log entry := do
    if (← read).filter.shows entry then IO.eprint (entry.line (← sinceStart))
  elapsed := sinceStart

end Terminal

end ContainerMarkup

open ContainerMarkup in
/-- Run the program on the words of its command line. -/
def main (words : List String) : IO UInt32 := do
  let started ← IO.monoMsNow
  match Command.ProgramSpec.full.read words with
  | .error fault =>
    let code ← (Command.answerFault fault : Terminal Nat).run { filter := [], started := started }
    return code.toUInt32
  | .ok invocation =>
    let filter := LogFilter.choose (← IO.getEnv "RUST_LOG") invocation.debug
    let setting ← IO.getEnv "MM_MAX_FILE_SIZE"
    let code ← (invocation.run setting : Terminal Nat).run { filter := filter, started := started }
    return code.toUInt32
