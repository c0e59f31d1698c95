/-
ContainerMarkup/Json/Value.lean

JSON values and their text.  Only strings, arrays and objects occur.  Objects
keep their members in the order given.

The text depends on a layout: what stands where a line may break, and what
stands between a key and its value.  The compact layout has nothing and `:`,
the pretty one a line feed with two spaces per level, and `: `.  Empty arrays
and objects are two characters in every layout.

The writers append to the text so far, which keeps them linear.
-/
import ContainerMarkup.Text.Cut
import ContainerMarkup.Text.Escape

namespace ContainerMarkup

/-- A JSON value. -/
inductive Json where
  | string (s : String)
  | array (items : List Json)
  | object (members : List (String × Json))

namespace Json

/-! ### Strings -/

/-- A character below U+0020 by four hexadecimal digits. -/
def controlEscape (c : Char) : String :=
  let digits := Nat.toDigits 16 c.toNat
  "\\u" ++ String.ofList (List.replicate (4 - digits.length) '0' ++ digits)

/-- A character as it stands inside a string. -/
def escapeChar (c : Char) : String :=
  match c with
  | '"' => "\\\""
  | '\\' => "\\\\"
  | '\x08' => "\\b"
  | '\x0c' => "\\f"
  | '\n' => "\\n"
  | '\r' => "\\r"
  | '\t' => "\\t"
  | _ => if c.toNat < 0x20 then controlEscape c else c.toString

/-- Append a string in double quotes. -/
def writeString (out s : String) : String :=
  s.toList.foldl (fun out c => out ++ escapeChar c) (out ++ "\"") ++ "\""

/-! ### Layouts -/

/-- What stands at a possible line break at a depth, and what stands after a
key. -/
structure Layout where
  lineBreak : Nat → String
  colon : String

/-- No breaks and no blanks. -/
def Layout.compact : Layout := ⟨fun _ => "", ":"⟩

/-- Each item on its own line, two spaces further in. -/
def Layout.pretty : Layout := ⟨fun depth => "\n" ++ Text.indent depth, ": "⟩

/-! ### Values -/

mutual
/-- Append a value that stands at a depth. -/
def write (l : Layout) (depth : Nat) (out : String) : Json → String
  | .string s => writeString out s
  | .array [] => out ++ "[]"
  | .array (item :: items) =>
    writeItems l (depth + 1) (write l (depth + 1) (out ++ "[" ++ l.lineBreak (depth + 1)) item) items
      ++ l.lineBreak depth ++ "]"
  | .object [] => out ++ "\x7b\x7d"
  | .object ((key, value) :: members) =>
    writeMembers l (depth + 1)
      (write l (depth + 1)
        (writeString (out ++ "\x7b" ++ l.lineBreak (depth + 1)) key ++ l.colon) value) members
      ++ l.lineBreak depth ++ "\x7d"

/-- Append further items of an array. -/
def writeItems (l : Layout) (depth : Nat) (out : String) : List Json → String
  | [] => out
  | item :: items => writeItems l depth (write l depth (out ++ "," ++ l.lineBreak depth) item) items

/-- Append further members of an object. -/
def writeMembers (l : Layout) (depth : Nat) (out : String) : List (String × Json) → String
  | [] => out
  | (key, value) :: members =>
    writeMembers l depth
      (write l depth (writeString (out ++ "," ++ l.lineBreak depth) key ++ l.colon) value) members
end

/-- The text of a value. -/
def render (l : Layout) (j : Json) : String := write l 0 "" j

/-- The text of a value without breaks. -/
def compact (j : Json) : String := j.render .compact

/-- The text of a value with breaks. -/
def pretty (j : Json) : String := j.render .pretty

end Json

end ContainerMarkup
