/-
ContainerMarkup/Limits.lean

Bounds on what a compile may take, and the options of one compile.  All three
bounds are inclusive.  "Unlimited" is the largest unsigned number of 64 bits,
which no text in memory reaches.
-/

namespace ContainerMarkup

/-- Bounds on the size of a text in bytes, on the number of containers open at
once and on the number of containers opened in all. -/
structure Limits where
  fileSize : Nat := 67108864
  depth : Nat := 256
  containers : Nat := 1000000
deriving DecidableEq, Repr

/-- The largest unsigned number of 64 bits. -/
def maxWord : Nat := 18446744073709551615

/-- The limits in force when nothing else is said. -/
def Limits.standard : Limits := {}

/-- Limits that no text in memory reaches. -/
def Limits.unlimited : Limits := ⟨maxWord, maxWord, maxWord⟩

/-- The name of a text that comes from no file. -/
def memoryName : String := "<memory>"

/-- The options of one compile: its limits and the name of its text. -/
structure Options where
  limits : Limits := {}
  sourceName : String := memoryName
deriving DecidableEq, Repr

end ContainerMarkup
