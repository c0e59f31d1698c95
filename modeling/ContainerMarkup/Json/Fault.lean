/-
ContainerMarkup/Json/Fault.lean

Why JSON cannot be written: a text, and the place in the JSON it is about.
A fault may be stated as one text that ends in its place, as in
`bad key at line 2 column 7`; the place is then taken off the text.  Line
zero means that there is no place.
-/
import ContainerMarkup.Limits
import ContainerMarkup.Number.Whole

namespace ContainerMarkup.Json

/-- Why JSON cannot be written, and where. -/
structure Fault where
  text : String
  line : Nat := 0
  column : Nat := 0
deriving DecidableEq, Repr

namespace Fault

/-! ### Taking a place off a text

A text is read from its end, so the characters are in reverse. -/

/-- Take digits off the end of a text, and a word before them. -/
def takeNumber? (word : String) (t : List Char) : Option (Nat × List Char) :=
  let mark := word.toList.reverse
  let rest := t.dropWhile Number.isDigit
  if mark.isPrefixOf rest then
    ((Number.digits? (t.takeWhile Number.isDigit).reverse).filter (· ≤ maxWord)).map
      fun n => (n, rest.drop mark.length)
  else none

/-- The fault stated by a text that ends in a place. -/
def placed? (s : String) : Option Fault := do
  let (column, t) ← takeNumber? " column " s.toList.reverse
  let (line, t) ← takeNumber? " at line " t
  return ⟨String.ofList t.reverse, line, column⟩

/-- The fault stated by a text. -/
def stated (s : String) : Fault := (placed? s).getD { text := s }

/-! ### Wording -/

/-- The wording of a fault: the text, and the place if there is one. -/
def message (f : Fault) : String :=
  if f.line == 0 then f.text else s!"{f.text} at line {f.line} column {f.column}"

end Fault

end ContainerMarkup.Json
