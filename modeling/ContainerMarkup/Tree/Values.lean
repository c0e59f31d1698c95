/-
ContainerMarkup/Tree/Values.lean

The values of a container: a finite map whose names differ in more than the
case of ASCII letters.  Each entry keeps the spelling its name had when it
was added, and lies in a slot under a key of its own, the folded name.  Slots
are stored, and iterated, in increasing order of their keys; the order, and
that each key is the folded spelling of its entry, are part of the type, so
two maps with the same entries are the same map.
-/
import ContainerMarkup.Failure
import ContainerMarkup.Text.Fold

namespace ContainerMarkup

/-! ### Lists in the order of keys -/

section Increasing

variable {α : Type} {key : α → String}

/-- Elements in increasing order of their keys. -/
def Increasing (key : α → String) (xs : List α) : Prop := xs.Pairwise fun a b => key a < key b

/-- Put an element at its place in a list in increasing order, instead of one
with the same key if there is one. -/
def putBy (key : α → String) (a : α) : List α → List α
  | [] => [a]
  | x :: xs =>
    if key a < key x then a :: x :: xs
    else if key x < key a then x :: putBy key a xs
    else a :: xs

theorem mem_putBy {a y : α} {xs : List α} (h : y ∈ putBy key a xs) : y = a ∨ y ∈ xs := by
  induction xs with
  | nil => simpa [putBy] using h
  | cons x xs ih =>
    rw [putBy] at h
    split at h
    · simpa using h
    · split at h
      · rcases List.mem_cons.1 h with h | h
        · exact .inr (by simp [h])
        · rcases ih h with h | h
          · exact .inl h
          · exact .inr (by simp [h])
      · rcases List.mem_cons.1 h with h | h
        · exact .inl h
        · exact .inr (by simp [h])

theorem Increasing.putBy (a : α) {xs : List α} (h : Increasing key xs) :
    Increasing key (putBy key a xs) := by
  induction xs with
  | nil => simp [ContainerMarkup.putBy, Increasing]
  | cons x xs ih =>
    obtain ⟨hx, hxs⟩ := List.pairwise_cons.1 h
    rw [ContainerMarkup.putBy]
    split
    · next hlt =>
      refine List.pairwise_cons.2 ⟨fun y hy => ?_, h⟩
      rcases List.mem_cons.1 hy with rfl | hy
      · exact hlt
      · exact String.lt_trans hlt (hx y hy)
    · next hnlt =>
      split
      · next hgt =>
        refine List.pairwise_cons.2 ⟨fun y hy => ?_, ih hxs⟩
        rcases mem_putBy hy with rfl | hy
        · exact hgt
        · exact hx y hy
      · next hngt =>
        have hkey : key a = key x :=
          String.le_antisymm (String.not_lt.1 hngt) (String.not_lt.1 hnlt)
        exact List.pairwise_cons.2 ⟨fun y hy => hkey ▸ hx y hy, hxs⟩

end Increasing

/-! ### Slots -/

/-- A name as it was first spelled, and its value. -/
structure Entry where
  name : String
  value : String
deriving DecidableEq, Repr

/-- An entry and the key it is stored under. -/
structure Slot where
  key : String
  entry : Entry
deriving DecidableEq, Repr

/-- The slot of an entry. -/
def Entry.slot (e : Entry) : Slot := ⟨Text.fold e.name, e⟩

namespace Slot

/-- The slot with its value replaced, if it is the one with the key. -/
def assign (key value : String) (s : Slot) : Slot :=
  if s.key == key then ⟨s.key, ⟨s.entry.name, value⟩⟩ else s

@[simp] theorem assign_key (key value : String) (s : Slot) : (s.assign key value).key = s.key := by
  rw [assign]
  split <;> rfl

@[simp] theorem assign_name (key value : String) (s : Slot) :
    (s.assign key value).entry.name = s.entry.name := by
  rw [assign]
  split <;> rfl

end Slot

/-- Slots whose keys are the folded names of their entries. -/
def Folded (slots : List Slot) : Prop := ∀ s ∈ slots, s.key = Text.fold s.entry.name

theorem Increasing.assign (key value : String) {xs : List Slot} (h : Increasing Slot.key xs) :
    Increasing Slot.key (xs.map (Slot.assign key value)) := by
  rw [Increasing, List.pairwise_map]
  refine h.imp fun hlt => ?_
  rw [Slot.assign_key, Slot.assign_key]
  exact hlt

theorem Folded.put (e : Entry) {xs : List Slot} (h : Folded xs) :
    Folded (putBy Slot.key e.slot xs) := by
  intro y hy
  rcases mem_putBy hy with rfl | hy
  · rfl
  · exact h y hy

theorem Folded.assign (key value : String) {xs : List Slot} (h : Folded xs) :
    Folded (xs.map (Slot.assign key value)) := by
  intro y hy
  obtain ⟨s, hs, rfl⟩ := List.mem_map.1 hy
  rw [Slot.assign_key, Slot.assign_name]
  exact h s hs

/-! ### The map -/

/-- A map from names to values that ignores the case of ASCII letters. -/
structure Values where
  slots : List Slot
  sorted : Increasing Slot.key slots
  folded : Folded slots
deriving DecidableEq

namespace Values

/-- The map without entries. -/
def empty : Values := ⟨[], List.Pairwise.nil, fun _ h => nomatch h⟩

instance : Inhabited Values := ⟨empty⟩

/-- The entries, in the order of their keys. -/
def entries (v : Values) : List Entry := v.slots.map Slot.entry

/-- The number of entries. -/
def size (v : Values) : Nat := v.slots.length

/-- Whether there is no entry. -/
def isEmpty (v : Values) : Bool := v.slots.isEmpty

theorem length_entries (v : Values) : v.entries.length = v.size := by
  rw [entries, size, List.length_map]

theorem isEmpty_entries (v : Values) : v.entries.isEmpty = v.isEmpty := by
  rw [entries, isEmpty, List.isEmpty_map]

/-- The entry of a name. -/
def find? (v : Values) (name : String) : Option Entry :=
  let key := Text.fold name
  (v.slots.find? (·.key == key)).map Slot.entry

/-- The value of a name. -/
def get? (v : Values) (name : String) : Option String := (v.find? name).map Entry.value

/-- Whether a name has a value. -/
def contains (v : Values) (name : String) : Bool := (v.find? name).isSome

/-- Store an entry, instead of the one with its key if there is one. -/
def store (v : Values) (e : Entry) : Values :=
  ⟨putBy Slot.key e.slot v.slots, v.sorted.putBy e.slot, v.folded.put e⟩

/-- Replace the value under a key; the spelling stays. -/
def assign (v : Values) (key value : String) : Values :=
  ⟨v.slots.map (Slot.assign key value), v.sorted.assign key value, v.folded.assign key value⟩

/-- Take out what is stored under a key. -/
def without (v : Values) (key : String) : Values :=
  ⟨v.slots.filter (·.key != key), List.Pairwise.filter _ v.sorted,
    fun s hs => v.folded s (List.mem_filter.1 hs).1⟩

/-- Add a value under a new name. -/
def insert (v : Values) (name value : String) : Except Failure Values :=
  if v.contains name then .error (Cause.duplicate name).failure
  else .ok (v.store ⟨name, value⟩)

/-- Set the value of a name, and return the value it had.  A name that has a
value keeps its spelling. -/
def set (v : Values) (name value : String) : Option String × Values :=
  match v.find? name with
  | some old => (some old.value, v.assign (Text.fold name) value)
  | none => (none, v.store ⟨name, value⟩)

/-- Remove the entry of a name, and return the value it had. -/
def erase (v : Values) (name : String) : Option String × Values :=
  match v.find? name with
  | some old => (some old.value, v.without (Text.fold name))
  | none => (none, v)

/-- Add values under new names, one after the other. -/
def insertAll (v : Values) (pairs : List (String × String)) : Except Failure Values :=
  pairs.foldlM (fun v p => v.insert p.1 p.2) v

end Values

end ContainerMarkup
