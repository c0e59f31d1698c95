/-
ContainerMarkup/Proofs/Action.lean

What a list of lines asks for.  Read without any state, lines are a word of
actions: open a container, close the innermost one, give it a value.

* The opening line opens a container; its header is the line before.
* The closing line closes.
* A line of groups gives a value for each group of one pair, and opens and
  closes a container for each group of several.
* A line that is left for an opening line, or that nothing follows, asks for
  nothing.

A group or header that cannot be read contributes no action; `Readable` says
that there is none.

Three measures of a word carry the statements about limits and trees:
`openings` counts the containers opened, `peak` is the largest number of
containers open at once, and `own` collects the values that reach one open
container.
-/
import ContainerMarkup.Assembly
import ContainerMarkup.Proofs.Values

namespace ContainerMarkup

open Source

/-! ### Actions -/

/-- One thing a line asks for. -/
inductive Action where
  /-- Open a container under a header. -/
  | enter (g : Group)
  /-- Close the innermost container. -/
  | leave
  /-- Give the innermost container a value. -/
  | value (a : Attribute)
deriving DecidableEq, Repr

/-- The default a group gives its container. -/
def Source.Group.default? (g : Group) : Option String :=
  if g.lead.value.isEmpty then none else some g.lead.value

/-- What a group in a body asks for. -/
def Source.Group.actions (g : Group) : List Action :=
  if g.others.isEmpty then [.value g.lead] else [.enter g, .leave]

/-! ### Lines -/

/-- Whether a line is read as groups, given the line after it. -/
def IsBody (line : String) (next : Option String) : Prop :=
  line ≠ opener ∧ line ≠ closer ∧ ∃ following, next = some following ∧ following ≠ opener

instance (line : String) (next : Option String) : Decidable (IsBody line next) :=
  match next with
  | none => isFalse fun h => by obtain ⟨_, _, _, h, _⟩ := h; cases h
  | some following =>
    decidable_of_iff (line ≠ opener ∧ line ≠ closer ∧ following ≠ opener) <| by
      simp [IsBody]

/-- What a group asks for that is given as it stands in a line. -/
def pieceActions (piece : String) : List Action :=
  match Group.read false piece with
  | .ok g => g.actions
  | .error _ => []

/-- What the opening line asks for, given the line before it. -/
def headerActions (previous : Option String) : List Action :=
  match previous.map (Group.read true) with
  | some (.ok g) => [.enter g]
  | _ => []

/-- What a line asks for, given the line before it and the line after it. -/
def lineActions (previous : Option String) (line : String) (next : Option String) : List Action :=
  if line = opener then headerActions previous
  else if line = closer then [.leave]
  else if IsBody line next then (Assembly.groupsOf line).flatMap pieceActions
  else []

/-- What lines ask for, given the line before them. -/
def actionsAfter (previous : Option String) : List String → List Action
  | [] => []
  | line :: rest => lineActions previous line rest.head? ++ actionsAfter (some line) rest

/-- What a list of lines asks for. -/
def actions (lines : List String) : List Action := actionsAfter none lines

/-- The groups of all lines of groups. -/
def bodyGroups : List String → List String
  | [] => []
  | line :: rest =>
    (if IsBody line rest.head? then Assembly.groupsOf line else []) ++ bodyGroups rest

/-- The lines taken as headers, given the line before the first. -/
def headersAfter (previous : Option String) : List String → List String
  | [] => []
  | line :: rest =>
    (if line = opener then previous.toList else []) ++ headersAfter (some line) rest

/-! ### The actions of a line, by its kind -/

theorem actionsAfter_opener {text : String} {g : Group} (h : Group.read true text = .ok g)
    (rest : List String) :
    actionsAfter (some text) (opener :: rest) = .enter g :: actionsAfter (some opener) rest := by
  rw [actionsAfter, lineActions, if_pos rfl, headerActions, Option.map_some, h]
  rfl

theorem actionsAfter_closer (previous : Option String) (rest : List String) :
    actionsAfter previous (closer :: rest) = .leave :: actionsAfter (some closer) rest := by
  rw [actionsAfter, lineActions, if_neg (by decide), if_pos rfl]
  rfl

theorem actionsAfter_body {previous : Option String} {line : String} {rest : List String}
    (h : IsBody line rest.head?) :
    actionsAfter previous (line :: rest) =
      (Assembly.groupsOf line).flatMap pieceActions ++ actionsAfter (some line) rest := by
  rw [actionsAfter, lineActions, if_neg h.1, if_neg h.2.1, if_pos h]

theorem actionsAfter_other {previous : Option String} {line : String} {rest : List String}
    (hopen : line ≠ opener) (hclose : line ≠ closer) (hbody : ¬ IsBody line rest.head?) :
    actionsAfter previous (line :: rest) = actionsAfter (some line) rest := by
  rw [actionsAfter, lineActions, if_neg hopen, if_neg hclose, if_neg hbody]
  rfl

theorem line_cases (line : String) (next : Option String) :
    line = opener ∨ line = closer ∨ IsBody line next ∨
      (line ≠ opener ∧ line ≠ closer ∧ ¬ IsBody line next) := by
  by_cases hopen : line = opener
  · exact .inl hopen
  · by_cases hclose : line = closer
    · exact .inr (.inl hclose)
    · by_cases hbody : IsBody line next
      · exact .inr (.inr (.inl hbody))
      · exact .inr (.inr (.inr ⟨hopen, hclose, hbody⟩))

/-! ### Readable lines -/

/-- A line whose header or groups can be read. -/
structure LineReadable (previous : Option String) (line : String) (next : Option String) :
    Prop where
  /-- The opening line has a line before it, which reads as a header. -/
  header : line = opener → ∃ text g, previous = some text ∧ Group.read true text = .ok g
  /-- Every group of a line of groups can be read. -/
  body : IsBody line next →
    ∀ piece ∈ Assembly.groupsOf line, ∃ g, Group.read false piece = .ok g

/-- Lines whose headers and groups can be read, given the line before them. -/
def Readable (previous : Option String) : List String → Prop
  | [] => True
  | line :: rest => LineReadable previous line rest.head? ∧ Readable (some line) rest

/-! ### Measures of a word -/

namespace Action

/-- Whether an action opens a container. -/
def isEnter : Action → Bool
  | .enter _ => true
  | _ => false

/-- The number of open containers after an action. -/
def level (depth : Nat) : Action → Nat
  | .enter _ => depth + 1
  | .leave => depth - 1
  | .value _ => depth

/-- How many containers are opened. -/
def openings (as : List Action) : Nat := as.countP isEnter

/-- How many containers are open after the actions, from a given depth on. -/
def depthAfter (depth : Nat) (as : List Action) : Nat := as.foldl level depth

/-- The largest number of containers open at once, from a given depth on. -/
def peak (depth : Nat) : List Action → Nat
  | [] => depth
  | a :: as => max depth (peak (a.level depth) as)

/-- The values given to the container inside of which `above` others are open
when the actions begin, up to the moment it is closed. -/
def own : Nat → List Action → List Attribute
  | _, [] => []
  | above, .enter _ :: as => own (above + 1) as
  | 0, .leave :: _ => []
  | above + 1, .leave :: as => own above as
  | 0, .value a :: as => a :: own 0 as
  | above + 1, .value _ :: as => own (above + 1) as

@[simp] theorem openings_nil : openings [] = 0 := rfl

@[simp] theorem openings_append (as bs : List Action) :
    openings (as ++ bs) = openings as + openings bs := by
  simp [openings]

@[simp] theorem depthAfter_nil (depth : Nat) : depthAfter depth [] = depth := rfl

@[simp] theorem depthAfter_cons (depth : Nat) (a : Action) (as : List Action) :
    depthAfter depth (a :: as) = depthAfter (a.level depth) as := rfl

@[simp] theorem depthAfter_append (depth : Nat) (as bs : List Action) :
    depthAfter depth (as ++ bs) = depthAfter (depthAfter depth as) bs := by
  simp [depthAfter]

theorem le_peak (depth : Nat) (as : List Action) : depth ≤ peak depth as := by
  cases as with
  | nil => exact Nat.le_refl depth
  | cons a as => exact Nat.le_max_left depth _

theorem peak_append (depth : Nat) (as bs : List Action) :
    peak depth (as ++ bs) = max (peak depth as) (peak (depthAfter depth as) bs) := by
  induction as generalizing depth with
  | nil =>
    have h := le_peak depth bs
    simp only [List.nil_append, peak, depthAfter_nil]
    omega
  | cons a as ih =>
    simp only [List.cons_append, peak, depthAfter_cons, ih]
    omega

end Action

end ContainerMarkup
