/-
ContainerMarkup/Source/Group.lean

Groups.  A group is one run in brackets.  It reads as a lead pair, which
carries the group's name, and further pairs:

    [Name]             a name
    [Name:value]       a name and a value
    [Name:A=1,B=2]     a name and two pairs
    [Name=value,A=1]   a name, a value and one pair

`:` and `=` are the same.  A group with at most one separator in all is a
single pair; with two or more it is a name, then comma-separated segments up
to the first closing bracket, of which only the first may be a bare value.
Only the single pair of a header may have a blank value.

The readers work on characters and name their failure by its cause; `Group.read`
puts the layer around it that names the group.
-/
import ContainerMarkup.Failure
import ContainerMarkup.Text.Blank
import ContainerMarkup.Text.Cut

namespace ContainerMarkup.Source

/-! ### Characters with a meaning -/

/-- Whether a character stands between a name and its value. -/
def isSeparator (c : Char) : Bool := c == ':' || c == '='

/-- Whether a character is a quote of either sort. -/
def isQuote (c : Char) : Bool := c == '"' || c == '\''

/-- Whether a character ends the name of a pair. -/
def endsName (c : Char) : Bool := isSeparator c || c == '[' || c == ']'

/-- Whether a character ends the value of a pair. -/
def endsValue (c : Char) : Bool := c == ',' || c == ']'

/-- A text without its quotes. -/
def unquote (t : List Char) : List Char := t.filter fun c => !isQuote c

/-! ### Pairs and groups -/

/-- A name and a value. -/
structure Attribute where
  name : String
  value : String
deriving DecidableEq, Repr

/-- The pairs of a group; there is always a first one. -/
structure Group where
  lead : Attribute
  others : List Attribute
deriving DecidableEq, Repr

/-- All pairs, the lead first. -/
def Group.pairs (g : Group) : List Attribute := g.lead :: g.others

/-! ### Reading characters -/

/-- Read a pair.  Its name ends at a separator or bracket, which is skipped;
its value ends at a comma or closing bracket.  Only if `header` holds may the
value be blank. -/
def readPair (header : Bool) (t : List Char) : Except Cause Attribute :=
  let name := t.takeWhile fun c => !endsName c
  let rest := (t.dropWhile fun c => !endsName c).drop 1
  let value := unquote (rest.takeWhile fun c => !endsValue c)
  if name.any isQuote then .error .separatorExpected
  else if Text.allBlank name then .error .nameMissing
  else if !header && Text.allBlank value then .error .valueMissing
  else .ok ⟨String.ofList name, String.ofList value⟩

/-- Read a segment that has to be a pair. -/
def readSegment (t : List Char) : Except Cause Attribute :=
  if t.any isSeparator then readPair false t else .error .separatorExpected

/-- Read the segments of a group after its name. -/
def readSegments (name : String) : List (List Char) → Except Cause Group
  | [] => .ok ⟨⟨name, ""⟩, []⟩
  | first :: rest =>
    if first.any isSeparator then do
      let pairs ← (first :: rest).mapM readSegment
      return ⟨⟨name, ""⟩, pairs⟩
    else do
      let pairs ← rest.mapM readSegment
      return ⟨⟨name, String.ofList (unquote first)⟩, pairs⟩

/-- Read a group of several pairs, from behind its bracket. -/
def readMany (t : List Char) : Except Cause Group :=
  let name := t.takeWhile fun c => !isSeparator c
  let rest := (t.dropWhile fun c => !isSeparator c).drop 1
  let body := rest.takeWhile (· != ']')
  if Text.allBlank name then .error .nameMissing
  else if name.any isQuote then .error .separatorExpected
  else readSegments (String.ofList name) (Text.cut ',' body)

/-- Read a group. -/
def readGroup (header : Bool) : List Char → Except Cause Group
  | '[' :: rest =>
    if 2 ≤ rest.countP isSeparator then readMany rest
    else (readPair header rest).map fun pair => ⟨pair, []⟩
  | t => .error (if Text.allBlank t then .attributeExpected else .openerExpected)

/-! ### Reading a string -/

/-- Put the layer around a failure that names the group it is in. -/
def inGroup (group : String) (f : Failure) : Failure :=
  f.within s!"Unexpected error in attribute: '{group}'." group

/-- Read a group, which is a header or stands in a body. -/
def Group.read (header : Bool) (group : String) : Except Failure Group :=
  (readGroup header group.toList).mapError fun cause => inGroup group cause.failure

end ContainerMarkup.Source
