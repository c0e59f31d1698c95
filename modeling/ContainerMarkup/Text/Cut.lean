/-
ContainerMarkup/Text/Cut.lean

Cutting a run of characters at every occurrence of a separator.  The pieces
are kept in order, empty ones too, so there is always one piece more than
there are separators.  Both loops carry what they have found in reverse, so
they run in constant stack space.
-/

namespace ContainerMarkup.Text

/-- Cut the rest of a text, given the current piece and the finished pieces,
both latest first. -/
def cutFrom (sep : Char) (piece : List Char) (done : List (List Char)) :
    List Char → List (List Char)
  | [] => (piece.reverse :: done).reverse
  | c :: rest =>
    if c == sep then cutFrom sep [] (piece.reverse :: done) rest
    else cutFrom sep (c :: piece) done rest

/-- The pieces of a text between the occurrences of `sep`. -/
def cut (sep : Char) (t : List Char) : List (List Char) := cutFrom sep [] [] t

/-- Two spaces per level. -/
def indent (depth : Nat) : String := String.ofList (List.replicate (2 * depth) ' ')

end ContainerMarkup.Text
