/-
ContainerMarkup/Disk/Store.lean

A disk as a value: files and folders by their place, which is the list of
names from the top, and the folder in which relative paths start.  Whatever
is at a place may be refused to the program, with a fault in the words of the
system: to ask for its size, to read it, to write it, or to go on from it.

Looking up a path goes through its components one by one.  Each step has to
start in a folder that lets the program in and to find something there, so a
path that goes through a missing name fails even if it goes up again at once.
-/
import ContainerMarkup.Disk.Fault
import ContainerMarkup.Disk.Path

namespace ContainerMarkup

/-! ### What is on a disk -/

/-- What the system refuses at a place, and why. -/
structure Refusals where
  /-- To ask for the size. -/
  size : Option Fault := none
  /-- To read. -/
  read : Option Fault := none
  /-- To write: the file, or new files in the folder. -/
  write : Option Fault := none
  /-- To go on from the folder. -/
  enter : Option Fault := none
deriving DecidableEq, Repr

/-- A folder, with the size that the system gives for it. -/
structure Folder where
  size : Nat := 0
  refusals : Refusals := {}
deriving DecidableEq, Repr

/-- What is at a place. -/
inductive Node where
  | file (content : ByteArray) (refusals : Refusals := {})
  | folder (f : Folder)

namespace Node

/-- The size in bytes. -/
def size : Node → Nat
  | .file content _ => content.size
  | .folder f => f.size

/-- What is refused. -/
def refusals : Node → Refusals
  | .file _ refusals => refusals
  | .folder f => f.refusals

end Node

/-- A disk and the folder in which relative paths start. -/
structure Store where
  nodes : List (List String × Node) := []
  home : List String := []
  top : Folder := {}

namespace Store

/-! ### Looking up -/

/-- What is at a place; the top is a folder. -/
def find? (s : Store) (place : List String) : Option Node :=
  if place.isEmpty then some (.folder s.top)
  else (s.nodes.find? fun n => n.1 == place).map Prod.snd

/-- What is refused at a place; nothing is where nothing is. -/
def refusals (s : Store) (place : List String) : Refusals :=
  ((s.find? place).map Node.refusals).getD {}

/-- Stop with a refusal, if there is one. -/
def permit : Option Fault → Except Fault Unit
  | some fault => .error fault
  | none => .ok ()

/-- The longest name of one component, in bytes. -/
def maxName : Nat := 255

/-- The shortest path that is too long, in bytes. -/
def pathBound : Nat := 4096

/-- Follow components from a place. -/
def follow (s : Store) (place : List String) : List String → Except Fault (List String)
  | [] => .ok place
  | c :: rest =>
    match s.find? place with
    | some (.folder f) =>
      -- an empty component needs no look into the folder
      if c.isEmpty then s.follow place rest
      else
        match f.refusals.enter with
        | some fault => .error fault
        | none =>
          if Path.staysPut c then s.follow place rest
          else if c == Path.up then s.follow place.dropLast rest
          else if maxName < c.utf8ByteSize then .error .nameTooLong
          else
            match s.find? (place ++ [c]) with
            | some _ => s.follow (place ++ [c]) rest
            | none => .error .notFound
    | _ => .error .notFolder

/-- Refuse a path that no disk can hold. -/
def checkPath (path : String) : Except Fault Unit :=
  if path.toList.contains '\x00' then .error .zeroByte
  else if path.isEmpty then .error .notFound
  else if pathBound ≤ path.utf8ByteSize then .error .nameTooLong
  else .ok ()

/-- Where a path starts. -/
def start (s : Store) (path : String) : List String :=
  if Path.isAbsolute path then [] else s.home

/-- What a path leads to. -/
def resolve (s : Store) (path : String) : Except Fault Node := do
  checkPath path
  let place ← s.follow (s.start path) (Path.components path)
  match s.find? place with
  | some node => return node
  | none => throw .notFound

/-! ### Reading -/

/-- The size of a file or folder in bytes. -/
def fileSize (s : Store) (path : String) : Except Fault Nat := do
  let node ← s.resolve path
  permit node.refusals.size
  return node.size

/-- The text of a file. -/
def fileText (s : Store) (path : String) : Except Fault String := do
  let node ← s.resolve path
  permit node.refusals.read
  match node with
  | .file content _ =>
    match String.fromUTF8? content with
    | some text => return text
    | none => throw .notText
  | .folder _ => throw .isFolder

/-! ### Writing -/

/-- Put a file at a place, instead of the one that is there, whose refusals
it takes over. -/
def put (s : Store) (place : List String) (content : ByteArray) : Store :=
  if s.nodes.any fun n => n.1 == place then
    { s with nodes := s.nodes.map fun n =>
        if n.1 == place then (place, .file content n.2.refusals) else n }
  else { s with nodes := s.nodes ++ [(place, .file content)] }

/-- Stop unless a file can be written under a name in a folder. -/
def accept (s : Store) (folder : List String) (name : String) : Except Fault Unit :=
  match s.find? (folder ++ [name]) with
  | some (.folder _) => .error .isFolder
  | some (.file _ refusals) => permit refusals.write
  | none => permit (s.refusals folder).write

/-- The place a file with this path would have.  The folder it is in must be
there; the file need not be. -/
def target (s : Store) (path : String) : Except Fault (List String) := do
  checkPath path
  let components := Path.components path
  let named := (components.reverse.dropWhile String.isEmpty).reverse
  let name := named.getLast?.getD ""
  if Path.staysPut name || name == Path.up then
    let _ ← s.follow (s.start path) components
    throw .isFolder
  let folder ← s.follow (s.start path) (named.dropLast ++ [""])
  permit (s.refusals folder).enter
  if named.length < components.length then throw .isFolder
  if maxName < name.utf8ByteSize then throw .nameTooLong
  s.accept folder name
  return folder ++ [name]

/-- Write a file, new or instead of an old one. -/
def write (s : Store) (path text : String) : Except Fault Store := do
  let place ← s.target path
  return s.put place text.toUTF8

end Store

end ContainerMarkup
