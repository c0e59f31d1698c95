/-
ContainerMarkup/Source/Line.lean

Lines of condensed text.  A brace is a line of its own.  The text before a
brace is one line, or none if it is empty; but if two or more brackets open
in it, it is cut in two before the last one, so that a header may follow
other groups directly.  What comes after the last brace belongs to no line.
-/

namespace ContainerMarkup.Source

/-- The line that opens a container. -/
def opener : String := "\x7b"

/-- The line that closes a container. -/
def closer : String := "\x7d"

/-- Whether a character is a line of its own. -/
def isBrace (c : Char) : Bool := c == '\x7b' || c == '\x7d'

/-- The lines of a text without braces, which is given in reverse. -/
def bodyLines (reversed : List Char) : List (List Char) :=
  match reversed.dropWhile (· != '[') with
  | bracket :: before =>
    if before.contains '[' then
      [before.reverse, bracket :: (reversed.takeWhile (· != '[')).reverse]
    else [reversed.reverse]
  | [] => if reversed.isEmpty then [] else [reversed.reverse]

/-- The lines of the rest of a text, given the characters since the last
brace and the finished lines, both latest first. -/
def linesFrom (body : List Char) (done : List (List Char)) : List Char → List (List Char)
  | [] => done.reverse
  | c :: rest =>
    if isBrace c then linesFrom [] ([c] :: ((bodyLines body).reverse ++ done)) rest
    else linesFrom (c :: body) done rest

/-- The lines of a condensed text. -/
def lines (text : String) : List String :=
  (linesFrom [] [] text.toList).map String.ofList

end ContainerMarkup.Source
