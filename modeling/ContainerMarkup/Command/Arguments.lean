/-
ContainerMarkup/Command/Arguments.lean

Reading the words of a command line.

* `--name` and `-n` give an option; short ones may be joined, as in `-ab`.
* An option with a value takes it from behind `=`, or, when short, from the
  rest of the word, or from the next word.
* `--` ends the options.  A single `-` is an ordinary word.
* Every other word is a file.

A value taken from the next word is not settled until something else comes,
so an unknown option is noticed before an option that was repeated in that
way.
-/

namespace ContainerMarkup.Command

/-- What is wrong with a command line, or what it asks for instead of a
command. -/
inductive UsageFault where
  /-- There is no command. -/
  | missingCommand
  /-- There is no such command. -/
  | unknownCommand
  /-- There is no such option, or there is a file too many. -/
  | unknownArgument
  /-- There is no file. -/
  | missingFile
  /-- An option is given twice. -/
  | repeatedOption
  /-- An option has a value and takes none. -/
  | unwantedValue
  /-- An option has no value and takes one. -/
  | missingValue
  /-- Help is asked for. -/
  | help
  /-- The version is asked for. -/
  | version
deriving DecidableEq, Repr

/-! ### Options -/

/-- What an option does. -/
inductive OptionEffect where
  | flag
  | value
  | help
  | version
deriving DecidableEq, Repr

/-- An option by its long name, its short name if it has one, and its
effect. -/
structure OptionSpec where
  long : String
  short : Option Char
  effect : OptionEffect := .flag
deriving DecidableEq, Repr

/-- The options a command line may give, and whether it may give more than
one file. -/
structure WordSpec where
  options : List OptionSpec
  manyFiles : Bool
deriving DecidableEq, Repr

/-! ### Reading words -/

/-- What has been read: options by long name, files latest first, the option
given last if it is not settled, and whether the options have ended. -/
structure Words where
  given : List (String × Option String) := []
  files : List String := []
  pending : Option (OptionSpec × Option String) := none
  ended : Bool := false
deriving DecidableEq, Repr

namespace Words

/-- Enter an option with its value. -/
def enter (w : Words) (o : OptionSpec) (value : Option String) : Except UsageFault Words :=
  match o.effect with
  | .help => .error .help
  | .version => .error .version
  | _ =>
    if w.given.any fun g => g.1 == o.long then .error .repeatedOption
    else .ok { w with given := (o.long, value) :: w.given }

/-- Settle the option given last. -/
def settle (w : Words) : Except UsageFault Words :=
  match w.pending with
  | none => .ok w
  | some (_, none) => .error .missingValue
  | some (o, some value) => { w with pending := none }.enter o (some value)

/-- Settle the option given last and enter another. -/
def give (w : Words) (o : OptionSpec) (value : Option String) : Except UsageFault Words := do
  (← w.settle).enter o value

/-- Settle the option given last and expect a value for another. -/
def await (w : Words) (o : OptionSpec) : Except UsageFault Words := do
  return { ← w.settle with pending := some (o, none) }

/-- Read a file. -/
def addFile (spec : WordSpec) (w : Words) (word : String) : Except UsageFault Words :=
  if spec.manyFiles || w.files.isEmpty then do
    let w ← w.settle
    return { w with files := word :: w.files }
  else .error .unknownArgument

/-- Read a long option, from behind its dashes. -/
def addLong (spec : WordSpec) (w : Words) (t : List Char) : Except UsageFault Words :=
  let name := String.ofList (t.takeWhile (· != '='))
  let value := match t.dropWhile (· != '=') with
    | [] => none
    | _ :: rest => some (String.ofList rest)
  match spec.options.find? (·.long == name) with
  | none => .error .unknownArgument
  | some o =>
    match o.effect, value with
    | .value, none => w.await o
    | .value, some v => w.give o (some v)
    | _, some _ => .error .unwantedValue
    | _, none => w.give o none

/-- Read joined short options. -/
def addShort (spec : WordSpec) (w : Words) : List Char → Except UsageFault Words
  | [] => .ok w
  | c :: rest =>
    match spec.options.find? (·.short == some c) with
    | none => .error .unknownArgument
    | some o =>
      if o.effect == .value then
        match rest with
        | [] => w.await o
        | '=' :: value => w.give o (some (String.ofList value))
        | value => w.give o (some (String.ofList value))
      else do
        let w ← w.give o none
        w.addShort spec rest

/-- Read a word that is neither option nor `--`. -/
def addPlain (spec : WordSpec) (w : Words) (word : String) : Except UsageFault Words :=
  match w.pending with
  | some (o, none) => .ok { w with pending := some (o, some word) }
  | _ => w.addFile spec word

/-- Read a word. -/
def add (spec : WordSpec) (w : Words) (word : String) : Except UsageFault Words :=
  if w.ended then w.addFile spec word
  else
    match word.toList with
    | ['-', '-'] => .ok { w with ended := true }
    | '-' :: '-' :: name => w.addLong spec name
    | '-' :: c :: rest => w.addShort spec (c :: rest)
    | _ => w.addPlain spec word

/-- Read all words; there has to be a file. -/
def read (spec : WordSpec) (words : List String) : Except UsageFault Words := do
  let w ← words.foldlM (add spec) {}
  let w ← w.settle
  if w.files.isEmpty then throw .missingFile
  return w

/-- Whether an option was given. -/
def has (w : Words) (long : String) : Bool := w.given.any fun g => g.1 == long

/-- The value an option was given. -/
def value? (w : Words) (long : String) : Option String :=
  (w.given.find? fun g => g.1 == long).bind Prod.snd

end Words

end ContainerMarkup.Command
