/-
ContainerMarkup/Number/Decimal.lean

Reading a decimal number into a binary format.  The text is an optional sign
followed by `inf`, `infinity` or `nan` in any case of letters, or by digits
with at most one point, at least one digit in all, and an optional exponent.
The result is the nearest number of the format.

An exponent is counted while it is below `2 ^ 16`; its further digits are
read and not counted.

Powers of ten are only computed for numbers that can be finite and positive:
beyond `10 ^ 400` every format here has infinity, below `10 ^ -400` zero.
-/
import ContainerMarkup.Number.Binary
import ContainerMarkup.Number.Whole
import ContainerMarkup.Text.Fold

namespace ContainerMarkup.Number

/-- A decimal number: `digits` times ten to the power `exponent`. -/
structure Decimal where
  digits : List Char
  exponent : Int
deriving DecidableEq, Repr

/-! ### The form of a decimal number -/

/-- From here on the digits of an exponent are not counted. -/
def exponentBound : Nat := 0x10000

/-- The exponent written by a run of digits. -/
def exponentOfDigits (t : List Char) : Nat :=
  t.foldl (fun n c => if n < exponentBound then 10 * n + (c.toNat - '0'.toNat) else n) 0

/-- The exponent written by at least one digit and nothing else. -/
def exponentDigits? (t : List Char) : Option Int :=
  if !t.isEmpty && t.all isDigit then some (exponentOfDigits t) else none

/-- The exponent part of a number: nothing, or a mark, an optional sign and
at least one digit. -/
def exponent? : List Char → Option Int
  | [] => some 0
  | mark :: rest =>
    if mark == 'e' || mark == 'E' then
      match rest with
      | '-' :: ds => (exponentDigits? ds).map fun n => -n
      | '+' :: ds => exponentDigits? ds
      | ds => exponentDigits? ds
    else none

/-- A decimal number without sign. -/
def decimal? (t : List Char) : Option Decimal :=
  let whole := t.takeWhile isDigit
  let (fraction, rest) := match t.dropWhile isDigit with
    | '.' :: more => (more.takeWhile isDigit, more.dropWhile isDigit)
    | more => ([], more)
  let digits := whole ++ fraction
  if digits.isEmpty then none
  else (exponent? rest).map fun e => ⟨digits, e - (fraction.length : Int)⟩

/-! ### Its value in a binary format -/

/-- The pattern nearest to a decimal number. -/
def BinaryFormat.ofDecimal (f : BinaryFormat) (d : Decimal) : Nat :=
  let digits := d.digits.dropWhile (· == '0')
  let magnitude := (digits.length : Int) + d.exponent
  if digits.isEmpty || magnitude < -400 then 0
  else if 400 < magnitude then f.infinity
  else if d.exponent < 0 then f.round (ofDigits digits) (Nat.pow 10 d.exponent.natAbs)
  else f.round (ofDigits digits * Nat.pow 10 d.exponent.natAbs) 1

/-- The pattern of a number without sign, by name or in decimal. -/
def BinaryFormat.magnitude? (f : BinaryFormat) (t : List Char) : Option Nat :=
  let word := String.ofList (Text.foldChars t)
  if word == "inf" || word == "infinity" then some f.infinity
  else if word == "nan" then some f.nan
  else (decimal? t).map f.ofDecimal

/-- The pattern of a number with an optional sign. -/
def BinaryFormat.read? (f : BinaryFormat) (t : List Char) : Option Nat :=
  match t with
  | '-' :: rest => (f.magnitude? rest).map (f.sign + ·)
  | '+' :: rest => f.magnitude? rest
  | _ => f.magnitude? t

end ContainerMarkup.Number
