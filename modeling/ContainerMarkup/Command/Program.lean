/-
ContainerMarkup/Command/Program.lean

The commands by name, and the program that runs one of them.  The program
asks for a command before its other arguments; options that hold everywhere
may stand on either side of it.
-/
import ContainerMarkup.Command.Arguments
import ContainerMarkup.Command.Run

namespace ContainerMarkup.Command

/-! ### Commands by name -/

/-- A command on the command line: its name, what may follow it, and what it
stands for. -/
structure CommandSpec where
  name : String
  words : WordSpec
  command : Words → Command

/-- The only file given. -/
def Words.file (w : Words) : String := w.files.head?.getD ""

/-- The commands. -/
def commandSpecs : List CommandSpec :=
  [{ name := "validate"
     words := ⟨[], false⟩
     command := fun w => .validate w.file },
   { name := "inspect"
     words := ⟨[⟨"verbose", some 'v', .flag⟩], false⟩
     command := fun w => .inspect w.file (w.has "verbose") },
   { name := "to-json"
     words := ⟨[⟨"output", some 'o', .value⟩, ⟨"compact", some 'c', .flag⟩,
       ⟨"prune", none, .flag⟩], false⟩
     command := fun w => .toJson w.file (w.value? "output") (w.has "compact") (w.has "prune") },
   { name := "batch-validate"
     words := ⟨[⟨"parallel", some 'p', .flag⟩, ⟨"verbose", some 'v', .flag⟩], true⟩
     command := fun w => .batchValidate w.files.reverse (w.has "parallel") (w.has "verbose") }]

/-- The command that asks for help. -/
def helpName : String := "help"

/-- Whether a word is the name of a command. -/
def isCommandName (word : String) : Bool :=
  word == helpName || commandSpecs.any fun c => c.name == word

/-! ### The program -/

/-- The options that hold everywhere, and those that only the program itself
has. -/
structure ProgramSpec where
  everywhere : List OptionSpec
  ownOnly : List OptionSpec
deriving DecidableEq, Repr

/-- The option that asks for help. -/
def helpOption : OptionSpec := ⟨"help", some 'h', .help⟩

/-- The commands alone. -/
def ProgramSpec.bare : ProgramSpec := ⟨[], []⟩

/-- The whole program, with its log and version. -/
def ProgramSpec.full : ProgramSpec :=
  ⟨[⟨"debug", some 'd', .flag⟩], [⟨"version", some 'V', .version⟩]⟩

/-- What a command line asks for. -/
structure Invocation where
  command : Command
  /-- Whether the log is to show progress. -/
  debug : Bool
deriving DecidableEq, Repr

/-- What asking for help on some words leads to. -/
def helpFault : List String → UsageFault
  | [] => .help
  | [word] => if isCommandName word then .help else .unknownCommand
  | _ => .unknownCommand

/-- Read the words behind the name of a command. -/
def CommandSpec.invocation (p : ProgramSpec) (c : CommandSpec) (own : Words)
    (words : List String) : Except UsageFault Invocation := do
  let w ← Words.read ⟨c.words.options ++ p.everywhere ++ [helpOption], c.words.manyFiles⟩ words
  return ⟨c.command w, own.has "debug" || w.has "debug"⟩

/-- Read the words of the program, given those read so far. -/
def ProgramSpec.readFrom (p : ProgramSpec) (own : Words) :
    List String → Except UsageFault Invocation
  | [] => .error .missingCommand
  | word :: rest =>
    if own.ended then .error (if isCommandName word then .unknownArgument else .unknownCommand)
    else if word == helpName then .error (helpFault rest)
    else
      match commandSpecs.find? fun c => c.name == word with
      | some c => c.invocation p own rest
      | none =>
        if word.toList.head? == some '-' && word != "-" then do
          let own ← own.add ⟨p.everywhere ++ p.ownOnly ++ [helpOption], false⟩ word
          p.readFrom own rest
        else .error .unknownCommand

/-- Read the words of the program. -/
def ProgramSpec.read (p : ProgramSpec) (words : List String) : Except UsageFault Invocation :=
  p.readFrom {} words

/-! ### Running it -/

/-- The name and version of the program. -/
def versionText : String := "mm 0.1.0\n"

/-- A reminder of the commands. -/
def usageText : String :=
  "Usage: mm [-d] <COMMAND>\n\n" ++
    "  validate FILE\n  inspect FILE [-v]\n  to-json FILE [-o OUTPUT] [-c] [--prune]\n" ++
      "  batch-validate FILES... [-p] [-v]\n"

/-- The exit code of a command line that runs no command. -/
def UsageFault.exitCode : UsageFault → Nat
  | .help | .version => 0
  | _ => 2

variable {m : Type → Type} [Monad m] [Host m]

/-- Answer a command line that runs no command. -/
def answerFault (fault : UsageFault) : m Nat := do
  match fault with
  | .version => Host.print versionText
  | .help => Host.print usageText
  | _ => Host.complain usageText
  return fault.exitCode

/-- Run a command and give the exit code; a failure is said in one line. -/
def Invocation.run (setting : Option String) (i : Invocation) : m Nat := do
  match ← i.command.run setting with
  | .ok () => return 0
  | .error e =>
    Host.complain s!"Error: {e.message}\n"
    return 1

end ContainerMarkup.Command
