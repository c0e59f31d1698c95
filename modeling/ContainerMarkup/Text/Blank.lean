/-
ContainerMarkup/Text/Blank.lean

White space.  Names and values count as missing when nothing but white space
is in them, and typed values are read after trimming.  White space is the
Unicode property `White_Space`: twenty-five code points in ten ranges.
-/

namespace ContainerMarkup.Text

/-! ### The property -/

/-- The ranges of code points with the property `White_Space`, in order. -/
def whiteSpace : List (Nat × Nat) :=
  [(9, 13), (32, 32), (133, 133), (160, 160), (5760, 5760), (8192, 8202),
   (8232, 8233), (8239, 8239), (8287, 8287), (12288, 12288)]

/-- Whether a character is white space. -/
def isSpace (c : Char) : Bool :=
  whiteSpace.any fun r => r.1 ≤ c.toNat && c.toNat ≤ r.2

/-! ### Blank texts and trimming -/

/-- A run of characters is blank when all of it is white space. -/
def allBlank (t : List Char) : Bool := t.all isSpace

/-- A string is blank when all of it is white space; the empty string is. -/
def isBlank (s : String) : Bool := allBlank s.toList

/-- A run of characters without white space at either end. -/
def trimChars (t : List Char) : List Char :=
  ((t.dropWhile isSpace).reverse.dropWhile isSpace).reverse

end ContainerMarkup.Text
