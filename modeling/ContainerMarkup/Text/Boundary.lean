/-
ContainerMarkup/Text/Boundary.lean

Sets of code points.  A large set of characters, such as a property of the
Unicode standard, is given by its boundaries: the code points at which
membership changes, in increasing order.  Members start at the first
boundary, stop before the second, start again at the third, and so on.
-/

namespace ContainerMarkup.Text

/-- The code points at which membership in a set changes, in increasing
order. -/
abbrev Boundaries := List Nat

/-- Whether a code point is in the set with the given boundaries. -/
def Boundaries.holds (n : Nat) : Boundaries → Bool
  | start :: stop :: rest => start ≤ n && (n < stop || Boundaries.holds n rest)
  | _ => false

/-- Whether a character is in the set with the given boundaries. -/
def Boundaries.has (b : Boundaries) (c : Char) : Bool := b.holds c.toNat

end ContainerMarkup.Text
