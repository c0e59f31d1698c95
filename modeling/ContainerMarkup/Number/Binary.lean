/-
ContainerMarkup/Number/Binary.lean

Binary floating-point numbers as bit patterns, in exact arithmetic on natural
numbers.  A format is given by the width of its significand and of its
exponent.  `round` takes a quotient of natural numbers to the pattern of the
nearest representable number, a tie going to the even pattern and a quotient
beyond the largest finite number to infinity; `value` goes back.

Patterns count up with the numbers they stand for.  Measured in units of the
smallest positive number, a quotient below `2 ^ precision` is its own
pattern; above that, each halving of the significand adds one binade of
`2 ^ (precision - 1)` patterns.  A carry out of the significand therefore
lands in the next binade by itself.
-/

namespace ContainerMarkup.Number

/-- Two to a power. -/
def twoTo (n : Nat) : Nat := Nat.pow 2 n

/-- The widths of a binary format: significand (the hidden bit included) and
exponent. -/
structure BinaryFormat where
  precision : Nat
  exponentBits : Nat
deriving DecidableEq, Repr

namespace BinaryFormat

/-- The format of 32 bits. -/
def single : BinaryFormat := ⟨24, 8⟩

/-- The format of 64 bits. -/
def double : BinaryFormat := ⟨53, 11⟩

variable (f : BinaryFormat)

/-- The smallest positive number is two to the minus this power. -/
def smallest : Nat := twoTo (f.exponentBits - 1) - 2 + (f.precision - 1)

/-- The number of patterns in one binade. -/
def binade : Nat := twoTo (f.precision - 1)

/-- The pattern of positive infinity. -/
def infinity : Nat := (twoTo f.exponentBits - 1) * f.binade

/-- The pattern of a number that is none. -/
def nan : Nat := f.infinity + f.binade / 2

/-- The sign bit. -/
def sign : Nat := twoTo (f.precision - 1 + f.exponentBits)

/-- Whether a pattern stands for no number. -/
def isNaN (bits : Nat) : Bool := f.infinity < bits % f.sign

/-- The width of a pattern in hexadecimal digits. -/
def hexWidth : Nat := (f.precision + f.exponentBits) / 4

end BinaryFormat

/-! ### Rounding -/

/-- The whole number nearest to `num / den`, the even one of two. -/
def nearest (num den : Nat) : Nat :=
  let q := num / den
  let r := num % den
  if den < 2 * r || (2 * r == den && q % 2 == 1) then q + 1 else q

/-- The pattern of the number nearest to `num / den`. -/
def BinaryFormat.round (f : BinaryFormat) (num den : Nat) : Nat :=
  let units := num * twoTo f.smallest
  let halvings := Nat.log2 (units / den) + 1 - f.precision
  min f.infinity (halvings * f.binade + nearest units (den * twoTo halvings))

/-- The finite number a pattern without sign stands for, as a quotient. -/
def BinaryFormat.value (f : BinaryFormat) (bits : Nat) : Nat × Nat :=
  let e := bits / f.binade
  let units := if e == 0 then bits else (f.binade + bits % f.binade) * twoTo (e - 1)
  (units, twoTo f.smallest)

/-- The pattern of the quotient of two numbers given by finite patterns
without sign, the second positive. -/
def BinaryFormat.divide (f : BinaryFormat) (a b : Nat) : Nat :=
  let (an, ad) := f.value a
  let (bn, bd) := f.value b
  f.round (an * bd) (ad * bn)

end ContainerMarkup.Number
