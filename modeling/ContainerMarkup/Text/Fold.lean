/-
ContainerMarkup/Text/Fold.lean

Names compare without regard to the case of ASCII letters.  `fold` gives the
form that decides: letters `A` to `Z` in lower case, every other character
as it is.
-/

namespace ContainerMarkup.Text

/-- The characters of a name with ASCII letters in lower case. -/
def foldChars (t : List Char) : List Char := t.map Char.toLower

/-- The name with ASCII letters in lower case. -/
def fold (s : String) : String := String.ofList (foldChars s.toList)

/-- Whether two names are the same up to the case of ASCII letters. -/
def sameName (a b : String) : Bool := fold a == fold b

end ContainerMarkup.Text
