/-
ContainerMarkup/Text/Pattern.lean

Which texts are patterns.  A pattern is a regular expression: literals, `.`,
`^` and `$`, classes in brackets, groups, alternatives, repetitions and
escapes.  Patterns are only checked here, never matched.

A pattern has modes, which a group may switch: whether letters match in
either case, whether characters or bytes are matched, and whether white space
and comments may stand anywhere.  Neither the case of letters nor the classes
`\d`, `\s` and `\w` are known beyond ASCII, so they are refused while
characters are matched; what could match half of a character is refused while
bytes are.

The checkers take the rest of the text and give back what they leave of it.
The two loops take fuel; each round uses up a character, so the length of the
text is enough.
-/
import ContainerMarkup.Text.Blank
import ContainerMarkup.Text.Letter

namespace ContainerMarkup.Text.Pattern

/-! ### Modes -/

/-- How a part of a pattern is read. -/
structure Modes where
  /-- Letters match in either case. -/
  anyCase : Bool := false
  /-- Characters are matched, not bytes. -/
  characters : Bool := true
  /-- White space and comments may stand anywhere. -/
  spaced : Bool := false
deriving DecidableEq, Repr

/-- The letters that name a mode; those without a field change nothing about
which texts are patterns. -/
def modeLetters : List Char := ['i', 'm', 's', 'U', 'u', 'R', 'x']

/-- Switch a mode on or off. -/
def Modes.switch (m : Modes) (on : Bool) (letter : Char) : Modes :=
  match letter with
  | 'i' => { m with anyCase := on }
  | 'u' => { m with characters := on }
  | 'x' => { m with spaced := on }
  | _ => m

/-- Switch the modes named before the hyphen on and those after it off. -/
def Modes.switchAll (m : Modes) (letters : List Char) : Modes :=
  let on := letters.takeWhile (· != '-')
  let off := (letters.dropWhile (· != '-')).drop 1
  off.foldl (·.switch false ·) (on.foldl (·.switch true ·) m)

/-- Whether a run of characters names modes, none twice, and nothing is
missing after a hyphen. -/
def namesModes (letters : List Char) : Bool :=
  letters.all (fun c => c == '-' || modeLetters.contains c) &&
    letters.all (fun c => letters.count c == 1) && letters.getLast? != some '-'

/-- Whether letters can be compared as the modes ask. -/
def Modes.literal (m : Modes) : Bool := !(m.anyCase && m.characters)

/-- Drop white space and comments, given whether a comment has begun. -/
def dropSpace (comment : Bool) : List Char → List Char
  | [] => []
  | c :: rest =>
    if comment then dropSpace (c != '\n') rest
    else if isSpace c then dropSpace false rest
    else if c == '#' then dropSpace true rest
    else c :: rest

/-- Drop what the modes allow anywhere. -/
def Modes.skip (m : Modes) (t : List Char) : List Char := if m.spaced then dropSpace false t else t

/-! ### Escapes -/

/-- What an escape stands for. -/
inductive Escape where
  | literal (c : Char)
  /-- One of a set of characters. -/
  | set
  /-- A place between characters. -/
  | place
deriving DecidableEq, Repr

/-- The value of a hexadecimal digit. -/
def hexDigit? (c : Char) : Option Nat :=
  if '0' ≤ c && c ≤ '9' then some (c.toNat - '0'.toNat)
  else if 'a' ≤ c && c ≤ 'f' then some (c.toNat - 'a'.toNat + 10)
  else if 'A' ≤ c && c ≤ 'F' then some (c.toNat - 'A'.toNat + 10)
  else none

/-- Read a number of so many hexadecimal digits, given the digits before. -/
def hexNumber? (m : Modes) (value : Nat) : Nat → List Char → Option (Nat × List Char)
  | 0, t => some (value, t)
  | digits + 1, t =>
    match m.skip t with
    | [] => none
    | c :: rest => do hexNumber? m (16 * value + (← hexDigit? c)) digits rest

/-- A character by its code point; a byte beyond ASCII is none. -/
def codePoint? (m : Modes) (digits : Nat) (t : List Char) : Option (Escape × List Char) := do
  let (n, rest) ← hexNumber? m 0 digits t
  if !m.characters && digits == 2 && 0x80 ≤ n then none
  else if n.isValidChar then some (.literal (Char.ofNat n), rest)
  else none

/-- Read what follows a backslash. -/
def escape? (m : Modes) : List Char → Option (Escape × List Char)
  | [] => none
  | c :: rest =>
    match c with
    | 'x' => codePoint? m 2 rest
    | 'u' => codePoint? m 4 rest
    | 'U' => codePoint? m 8 rest
    | 'd' | 's' | 'w' => if m.characters then none else some (.set, rest)
    | 'b' | 'B' | '<' | '>' => if m.characters then none else some (.place, rest)
    | 'A' | 'z' => some (.place, rest)
    | 'a' => some (.literal '\x07', rest)
    | 't' => some (.literal '\t', rest)
    | 'n' => some (.literal '\n', rest)
    | 'v' => some (.literal '\x0b', rest)
    | 'f' => some (.literal '\x0c', rest)
    | 'r' => some (.literal '\r', rest)
    | _ => if c.toNat < 0x80 && !c.isAlphanum then some (.literal c, rest) else none

/-! ### Classes -/

/-- Read what stands first in a class: a negation, hyphens, a bracket that
does not close it. -/
def classStart? (m : Modes) (t : List Char) : Option (List Char) :=
  let (negated, t) := match m.skip t with
    | '^' :: rest => (true, m.skip rest)
    | t => (false, t)
  if negated && !m.characters then none
  else
    match t with
    | [] => none
    | ']' :: rest => some rest
    | _ => some (t.dropWhile fun c => c == '-' || m.spaced && isSpace c)

/-- Read one end of a range, or a set; a set has no character. -/
def classItem? (m : Modes) (t : List Char) : Option (Option Char × List Char) := do
  let (item, rest) ← match t with
    | [] => none
    | '\\' :: rest => escape? m rest
    | c :: rest => some (.literal c, rest)
  match item with
  | .place => none
  | .set => return (none, rest)
  | .literal c => if m.characters || c.toNat < 0x80 then return (some c, rest) else none

/-- Read a range or a single item. -/
def classRange? (m : Modes) (t : List Char) : Option (List Char) := do
  let (first, t) ← classItem? m t
  match m.skip t with
  | '-' :: rest =>
    match m.skip rest with
    | ']' :: _ | '-' :: _ => return '-' :: rest
    | rest =>
      let (last, rest) ← classItem? m rest
      if (← first) ≤ (← last) then return rest else none
  | rest => return rest

/-- Read the rest of a class, given how many brackets are open. -/
def classRest? (m : Modes) : Nat → Nat → List Char → Option (List Char)
  | 0, _, _ => none
  | fuel + 1, depth, t =>
    match m.skip t with
    | [] => none
    | '[' :: rest => do classRest? m fuel (depth + 1) (← classStart? m rest)
    | ']' :: rest => if depth ≤ 1 then some rest else classRest? m fuel (depth - 1) rest
    | '&' :: '&' :: rest => classRest? m fuel depth rest
    | '-' :: '-' :: rest => classRest? m fuel depth rest
    | '~' :: '~' :: rest => classRest? m fuel depth rest
    | t => do classRest? m fuel depth (← classRange? m t)

/-- Read a class after its first bracket. -/
def class? (m : Modes) (t : List Char) : Option (List Char) :=
  if m.literal then do classRest? m (t.length + 1) 1 (← classStart? m t) else none

/-! ### Groups -/

/-- What stands behind an opening parenthesis. -/
inductive Opening where
  /-- A group, with the modes inside it and its name. -/
  | group (modes : Modes) (name : Option (List Char))
  /-- Modes for the rest of the group around. -/
  | switch (modes : Modes)
deriving DecidableEq, Repr

/-- Whether a run of characters can name a group. -/
def isGroupName : List Char → Bool
  | [] => false
  | c :: rest =>
    (c == '_' || isLetter c) &&
      rest.all fun c => c == '_' || c == '.' || c == '[' || c == ']' || isLetterOrNumber c

/-- Read the name of a group. -/
def groupName? (m : Modes) (t : List Char) : Option (Opening × List Char) :=
  let name := t.takeWhile (· != '>')
  match t.dropWhile (· != '>') with
  | _ :: rest => if isGroupName name then some (.group m (some name), rest) else none
  | [] => none

/-- Read what stands behind an opening parenthesis. -/
def opening? (m : Modes) (t : List Char) : Option (Opening × List Char) :=
  match t with
  | '?' :: 'P' :: '<' :: rest => groupName? m rest
  | '?' :: '<' :: rest => groupName? m rest
  | '?' :: rest =>
    let isEnd (c : Char) : Bool := c == ':' || c == ')'
    let letters := rest.takeWhile fun c => !isEnd c
    let modes := m.switchAll letters
    if namesModes letters then
      match rest.dropWhile fun c => !isEnd c with
      | ':' :: rest => some (.group modes none, rest)
      | _ :: rest => if letters.isEmpty then none else some (.switch modes, rest)
      | [] => none
    else none
  | _ => some (.group m none, t)

/-! ### Expressions -/

/-- What is open where a pattern is read. -/
structure Scope where
  modes : Modes := {}
  /-- The modes around each open group, innermost first. -/
  around : List Modes := []
  /-- The names of groups so far. -/
  names : List (List Char) := []
  /-- Whether there is an expression that could be repeated. -/
  repeatable : Bool := false
deriving DecidableEq, Repr

/-- Whether the rest of a text completes a pattern. -/
def completes : Nat → Scope → List Char → Bool
  | 0, _, _ => false
  | fuel + 1, s, t =>
    let item := { s with repeatable := true }
    match s.modes.skip t with
    | [] => s.around.isEmpty
    | '(' :: rest =>
      match opening? s.modes (s.modes.skip rest) with
      | none => false
      | some (.switch modes, rest) =>
        completes fuel { s with modes := modes, repeatable := false } rest
      | some (.group modes name, rest) =>
        !(name.any fun n => s.names.contains n) &&
          completes fuel ⟨modes, s.modes :: s.around, name.toList ++ s.names, false⟩ rest
    | ')' :: rest =>
      match s.around with
      | [] => false
      | modes :: around => completes fuel { item with modes := modes, around := around } rest
    | '|' :: rest => completes fuel { s with repeatable := false } rest
    | '[' :: rest =>
      match class? s.modes rest with
      | none => false
      | some rest => completes fuel item rest
    | '?' :: rest => s.repeatable && completes fuel item rest
    | '*' :: rest => s.repeatable && completes fuel item rest
    | '+' :: rest => s.repeatable && completes fuel item rest
    | '\x7b' :: _ => false
    | '\\' :: rest =>
      match escape? s.modes rest with
      | none => false
      | some (.literal _, rest) => s.modes.literal && completes fuel item rest
      | some (_, rest) => completes fuel item rest
    | '.' :: rest => s.modes.characters && completes fuel item rest
    | '^' :: rest => completes fuel item rest
    | '$' :: rest => completes fuel item rest
    | _ :: rest => s.modes.literal && completes fuel item rest

/-- Whether a run of characters is a pattern. -/
def isPattern (t : List Char) : Bool := completes (t.length + 1) {} t

end ContainerMarkup.Text.Pattern
