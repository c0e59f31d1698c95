/-
ContainerMarkup/Tree/Parameter.lean

Parameters: names and values that a reader of a tree cannot do without, and
values read as something more than text.  A value is trimmed before it is
read; the failure still quotes it as it stands.
-/
import ContainerMarkup.Number.Decimal
import ContainerMarkup.Tree.Container

namespace ContainerMarkup

/-! ### Types of parameters -/

/-- What a text is read as. -/
inductive Scalar where
  /-- A number from zero, of so many bits. -/
  | natural (bits : Nat)
  /-- A number of either sign, of so many bits. -/
  | integer (bits : Nat)
  /-- A floating-point number. -/
  | real (format : Number.BinaryFormat)
  /-- `true` or `false`. -/
  | truth
  /-- One character. -/
  | character
  /-- Any text. -/
  | text
deriving DecidableEq, Repr

/-- What was read. -/
inductive Reading where
  | number (n : Int)
  /-- A floating-point number by its pattern. -/
  | real (format : Number.BinaryFormat) (bits : Nat)
  | truth (b : Bool)
  | character (c : Char)
  | text (s : String)
deriving DecidableEq, Repr

/-- Read a run of characters. -/
def Scalar.read? (t : List Char) : Scalar → Option Reading
  | .natural bits => (Number.natural? (Number.twoTo bits - 1) t).map fun n => .number n
  | .integer bits => (Number.integer? (Number.twoTo (bits - 1)) (Number.twoTo (bits - 1) - 1) t).map .number
  | .real format => (format.read? t).map (.real format)
  | .truth =>
    if t == "true".toList then some (.truth true)
    else if t == "false".toList then some (.truth false)
    else none
  | .character =>
    match t with
    | [c] => some (.character c)
    | _ => none
  | .text => some (.text (String.ofList t))

/-- A type of parameters: the name it has in failures, and what it reads. -/
structure ScalarType where
  label : String
  scalar : Scalar
deriving DecidableEq, Repr

/-- The types of parameters. -/
def ScalarType.all : List ScalarType :=
  [⟨"u8", .natural 8⟩, ⟨"u16", .natural 16⟩, ⟨"u32", .natural 32⟩, ⟨"u64", .natural 64⟩,
   ⟨"u128", .natural 128⟩, ⟨"usize", .natural 64⟩, ⟨"i8", .integer 8⟩, ⟨"i16", .integer 16⟩,
   ⟨"i32", .integer 32⟩, ⟨"i64", .integer 64⟩, ⟨"i128", .integer 128⟩, ⟨"isize", .integer 64⟩,
   ⟨"bool", .truth⟩, ⟨"char", .character⟩, ⟨"String", .text⟩, ⟨"f32", .real .single⟩,
   ⟨"f64", .real .double⟩]

/-- The type with a name. -/
def ScalarType.find? (label : String) : Option ScalarType :=
  ScalarType.all.find? (·.label == label)

/-! ### Parameters of a container -/

namespace Container

/-- What a missing name is called. -/
def nameLabel : String := "Container name"

/-- What a missing default is called. -/
def defaultLabel : String := "<<DEFAULT>>"

/-- The name, which may not be blank. -/
def requireName (c : Container) : Except Failure String :=
  if Text.isBlank c.name then .error (Cause.missing nameLabel).failure else .ok c.name

/-- The value of a name, which may be neither absent nor blank. -/
def requireValue (c : Container) (name : String) : Except Failure String :=
  match c.values.get? name with
  | some v => if Text.isBlank v then .error (Cause.missing name).failure else .ok v
  | none => .error (Cause.missing name).failure

/-- The default, which may be neither absent nor empty. -/
def requireDefault (c : Container) : Except Failure String :=
  match c.default with
  | some d => if d.isEmpty then .error (Cause.missing defaultLabel).failure else .ok d
  | none => .error (Cause.missing defaultLabel).failure

/-- Read a raw value after trimming it. -/
def readAs (name raw : String) (type : ScalarType) : Except Failure Reading :=
  match type.scalar.read? (Text.trimChars raw.toList) with
  | some reading => .ok reading
  | none => .error (Cause.invalid name raw type.label).failure

/-- The value of a name, read as a type. -/
def readValue (c : Container) (name : String) (type : ScalarType) : Except Failure Reading := do
  let raw ← c.requireValue name
  readAs name raw type

/-- The default, read as a type. -/
def readDefault (c : Container) (type : ScalarType) : Except Failure Reading := do
  let raw ← c.requireDefault
  readAs defaultLabel raw type

end Container

end ContainerMarkup
