/-
ContainerMarkup/Source/Condensed.lean

Condensed text: a source text reduced to its significant characters.  One
pass from left to right, with one character of lookahead.

* A character outside printable ASCII is skipped.  Line feeds, tabs and
  carriage returns go silently, every other one is reported.
* A double quote is skipped and turns quoting on or off.
* A space is skipped unless quoted.
* `/*` starts a comment and `*/` ends it; in between nothing is kept.

The rules for unprintable characters, quotes and spaces come first and hold
inside comments as well, and so does the test for `/*`.

`Scan` is the state between two characters.  It keeps what was found latest
first, and `Scan.run` is a loop in constant stack space.
-/
import ContainerMarkup.Text.Escape

namespace ContainerMarkup.Source

/-! ### Warnings -/

/-- A character that was skipped, and the byte at which it starts. -/
structure Warning where
  character : Char
  offset : Nat
deriving DecidableEq, Repr

/-- The low byte of the character's code point. -/
def Warning.code (w : Warning) : Nat := w.character.toNat % 256

/-- The wording of a warning. -/
def Warning.message (w : Warning) : String :=
  s!"Character {Text.escapeAscii w.character}({w.code}) is not valid and has been skipped!"

/-! ### Character classes -/

/-- Whether a character is printable ASCII. -/
def isPrintable (c : Char) : Bool := ' '.toNat ≤ c.toNat && c.toNat ≤ '~'.toNat

/-- Whether an unprintable character is skipped silently. -/
def isLayout (c : Char) : Bool := c == '\n' || c == '\t' || c == '\r'

/-! ### The pass -/

/-- The state between two characters: whether text is quoted, whether it is
in a comment, the byte offset, and what was kept and reported, latest
first. -/
structure Scan where
  quoted : Bool := false
  comment : Bool := false
  offset : Nat := 0
  kept : List Char := []
  warnings : List Warning := []
deriving DecidableEq, Repr

namespace Scan

/-- Pass over a character. -/
def skip (s : Scan) (c : Char) : Scan := { s with offset := s.offset + c.utf8Size }

/-- Pass over a character and report it. -/
def warn (s : Scan) (c : Char) : Scan :=
  { s.skip c with warnings := ⟨c, s.offset⟩ :: s.warnings }

/-- Pass over a double quote. -/
def toggle (s : Scan) : Scan := { s.skip '"' with quoted := !s.quoted }

/-- Pass over a character and keep it, unless a comment hides it. -/
def take (s : Scan) (c : Char) : Scan :=
  if s.comment then s.skip c else { s.skip c with kept := c :: s.kept }

/-- Pass over a comment mark of two characters. -/
def mark (s : Scan) (comment : Bool) : Scan :=
  { s with comment := comment, offset := s.offset + 2 }

/-- Pass over a text. -/
def run (s : Scan) : List Char → Scan
  | [] => s
  | c :: rest =>
    if !isPrintable c then run (if isLayout c then s.skip c else s.warn c) rest
    else if c == ' ' && !s.quoted then run (s.skip c) rest
    else if c == '"' then run s.toggle rest
    else
      match rest with
      | [] => s.take c
      | d :: more =>
        if c == '/' && d == '*' then run (s.mark true) more
        else if s.comment && c == '*' && d == '/' then run (s.mark false) more
        else run (s.take c) (d :: more)

end Scan

/-! ### Its result -/

/-- What is left of a source text, and what was reported. -/
structure Condensed where
  text : String
  warnings : List Warning
deriving DecidableEq, Repr

/-- The state after all of a text. -/
def scan (text : String) : Scan := ({} : Scan).run text.toList

/-- Condense a source text. -/
def condense (text : String) : Condensed :=
  let s := scan text
  ⟨String.ofList s.kept.reverse, s.warnings.reverse⟩

end ContainerMarkup.Source
