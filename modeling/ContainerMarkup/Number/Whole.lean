/-
ContainerMarkup/Number/Whole.lean

Whole numbers in decimal.  A number is an optional sign and at least one
digit, nothing else: no blanks, no grouping.  A reader takes the bounds the
number has to keep and refuses what lies outside.
-/

namespace ContainerMarkup.Number

/-- Whether a character is one of the ten decimal digits. -/
def isDigit (c : Char) : Bool := '0'.toNat ≤ c.toNat && c.toNat ≤ '9'.toNat

/-- The number written by a run of digits, most significant first. -/
def ofDigits (t : List Char) : Nat :=
  t.foldl (fun n c => 10 * n + (c.toNat - '0'.toNat)) 0

/-- The number written by at least one digit and nothing else. -/
def digits? (t : List Char) : Option Nat :=
  if !t.isEmpty && t.all isDigit then some (ofDigits t) else none

/-- A number from zero to `max`; a plus sign may stand before it. -/
def natural? (max : Nat) (t : List Char) : Option Nat :=
  let magnitude := match t with
    | '+' :: rest => digits? rest
    | _ => digits? t
  magnitude.filter (· ≤ max)

/-- A number from `-below` to `max`; a sign may stand before it. -/
def integer? (below max : Nat) (t : List Char) : Option Int :=
  match t with
  | '-' :: rest => ((digits? rest).filter (· ≤ below)).map fun n => -(n : Int)
  | _ => (natural? max t).map fun n => (n : Int)

end ContainerMarkup.Number
