/-
ContainerMarkup/Proofs/FiniteMap.lean

Values are a finite map.  The map they stand for is a function from names in
lower case to entries, an entry being a spelling and a value (`NameMap`).
Three operations change it, and each is stated for such functions without
regard to how values are stored (`NameMap.perform`):

* `insert` adds a name that is absent and fails for one that is present;
* `set` adds a name that is absent, and for one that is present replaces the
  value, answers the old one and keeps the spelling;
* `remove` takes a name out and answers its value.

Values have a lookup by stored key, which gives the map they stand for, and
each operation commutes with it (`Values.lookup_perform`).  Since a lookup
also determines the values (`Values.lookup_inj`), nothing else is in them.

Main result: after every sequence of operations values hold what the map
holds, under keys that are the spellings in lower case, and answer as it does
(`Values.after_holds`).
-/
import ContainerMarkup.Proofs.Values
import Mathlib.Data.Finset.Card
import Mathlib.Data.Set.Card
import Mathlib.Logic.Function.Basic

namespace ContainerMarkup

/-! ### Operations on maps -/

/-- What can be done to values. -/
inductive Operation where
  | insert (name value : String)
  | set (name value : String)
  | remove (name : String)
deriving DecidableEq, Repr

/-- What an operation answers: the value that was there before, or why it
failed. -/
abbrev Answer := Except Failure (Option String)

/-- A map from names in lower case to entries. -/
abbrev NameMap := String → Option Entry

namespace NameMap

/-- Why a name that is present cannot be inserted. -/
def duplicate (name : String) : Failure :=
  ⟨.duplicate, ⟨s!"Attribute with the name '{name}' has already been added.", some name⟩, []⟩

/-- What an operation makes of a map, and its answer. -/
def perform (m : NameMap) : Operation → NameMap × Answer
  | .insert name value =>
    match m (inLowerCase name) with
    | some _ => (m, .error (duplicate name))
    | none => (Function.update m (inLowerCase name) (some ⟨name, value⟩), .ok none)
  | .set name value =>
    match m (inLowerCase name) with
    | some old =>
      (Function.update m (inLowerCase name) (some ⟨old.name, value⟩), .ok (some old.value))
    | none => (Function.update m (inLowerCase name) (some ⟨name, value⟩), .ok none)
  | .remove name =>
    (Function.update m (inLowerCase name) none, .ok ((m (inLowerCase name)).map Entry.value))

/-- The map after operations, from the one without entries. -/
def after (ops : List Operation) : NameMap :=
  ops.foldl (fun m op => (m.perform op).1) fun _ => none

end NameMap

/-! ### Operations on values -/

namespace Values

/-- What an operation makes of values, and its answer. -/
def perform (v : Values) : Operation → Values × Answer
  | .insert name value =>
    match v.insert name value with
    | .ok w => (w, .ok none)
    | .error f => (v, .error f)
  | .set name value =>
    let (old, w) := v.set name value
    (w, .ok old)
  | .remove name =>
    let (old, w) := v.erase name
    (w, .ok old)

/-- The values after operations, from the empty ones. -/
def after (ops : List Operation) : Values :=
  ops.foldl (fun v op => (v.perform op).1) empty

/-- Strings in the order of their code points. -/
def CodePointLt (a b : String) : Prop :=
  List.Lex (fun c d : Char => c.toNat < d.toNat) a.toList b.toList

/-- Values that hold what a map holds, in order and each entry once, under
its key, and answer every question as it does. -/
structure Holds (v : Values) (m : NameMap) : Prop where
  get?_eq : ∀ name, v.get? name = (m (inLowerCase name)).map Entry.value
  contains_eq : ∀ name, v.contains name = (m (inLowerCase name)).isSome
  size_eq : v.size = {key | m key ≠ none}.ncard
  isEmpty_iff : v.isEmpty = true ↔ ∀ key, m key = none
  mem_iff : ∀ key e, m key = some e ↔ e ∈ v.entries ∧ inLowerCase e.name = key
  stored_iff : ∀ key e, m key = some e ↔ ⟨key, e⟩ ∈ v.slots
  keys_eq : v.slots.map Slot.key = v.entries.map fun e => inLowerCase e.name
  increasing : v.entries.Pairwise fun a b => CodePointLt (inLowerCase a.name) (inLowerCase b.name)

/-! ### Looking up keys -/

/-- The entry stored under a key: the map that values stand for. -/
def lookup (v : Values) : NameMap := fun key => (v.slots.find? (·.key == key)).map Slot.entry

variable {v w : Values} {e : Entry} {key : String}

theorem lookup_eq_some_iff : v.lookup key = some e ↔ ⟨key, e⟩ ∈ v.slots := by
  rw [lookup, Option.map_eq_some_iff]
  constructor
  · rintro ⟨⟨key', e'⟩, hfind, rfl⟩
    obtain rfl : key' = key := by simpa using List.find?_some hfind
    exact List.mem_of_find?_eq_some hfind
  · intro hmem
    exact ⟨⟨key, e⟩, v.sorted.find?_of_mem hmem, rfl⟩

theorem mem_slots_iff : ⟨key, e⟩ ∈ v.slots ↔ e ∈ v.entries ∧ inLowerCase e.name = key := by
  rw [slots_eq, List.mem_map, ← Text.fold_eq]
  constructor
  · rintro ⟨e', he', heq⟩
    cases heq
    exact ⟨he', rfl⟩
  · rintro ⟨he, rfl⟩
    exact ⟨e, he, rfl⟩

theorem find?_eq_lookup (v : Values) (name : String) :
    v.find? name = v.lookup (inLowerCase name) := by
  rw [← Text.fold_eq]
  rfl

/-- Values are determined by what is found in them. -/
theorem lookup_inj : v.lookup = w.lookup ↔ v = w := by
  constructor
  · intro h
    have hmem : ∀ (u : Values) (e : Entry),
        e ∈ u.entries ↔ u.lookup (inLowerCase e.name) = some e := by
      intro u e
      rw [lookup_eq_some_iff, mem_slots_iff, and_iff_left rfl]
    have hnodup : ∀ u : Values, u.entries.Nodup := by
      intro u
      have hkeys := u.sorted.nodup
      rw [map_key_slots] at hkeys
      exact List.Nodup.of_map _ hkeys
    apply eq_of_perm
    rw [List.perm_ext_iff_of_nodup (hnodup v) (hnodup w)]
    intro e
    rw [hmem, hmem, h]
  · rintro rfl
    rfl

theorem find?_cons_key (s : Slot) (xs : List Slot) (key : String) :
    (s :: xs).find? (·.key == key) =
      if key = s.key then some s else xs.find? (·.key == key) := by
  by_cases h : key = s.key
  · simp [h]
  · rw [if_neg h, List.find?_cons_of_neg (by simpa using Ne.symm h)]

theorem find?_put (s : Slot) (xs : List Slot) (key : String) :
    (putBy Slot.key s xs).find? (·.key == key) =
      if key = s.key then some s else xs.find? (·.key == key) := by
  induction xs with
  | nil => exact find?_cons_key s [] key
  | cons x xs ih =>
    rw [putBy]
    split
    · exact find?_cons_key s (x :: xs) key
    · next hnlt =>
      split
      · next hlt =>
        -- the slot goes further back, and has another key than the first
        rw [find?_cons_key, find?_cons_key, ih]
        by_cases hx : key = x.key
        · have hne : key ≠ s.key := fun h => String.lt_irrefl _ (h ▸ hx ▸ hlt)
          rw [if_pos hx, if_pos hx, if_neg hne]
        · rw [if_neg hx, if_neg hx]
      · next hngt =>
        have hkey : s.key = x.key :=
          String.le_antisymm (String.not_lt.1 hngt) (String.not_lt.1 hnlt)
        rw [find?_cons_key, find?_cons_key, ← hkey]
        by_cases h : key = s.key
        · rw [if_pos h, if_pos h]
        · rw [if_neg h, if_neg h, if_neg h]

theorem find?_assign (key value : String) (xs : List Slot) (other : String) :
    (xs.map (Slot.assign key value)).find? (·.key == other) =
      (xs.find? (·.key == other)).map (Slot.assign key value) := by
  have hcomp : ((·.key == other) ∘ Slot.assign key value : Slot → Bool) = (·.key == other) := by
    funext s
    exact congrArg (· == other) (Slot.assign_key key value s)
  rw [List.find?_map, hcomp]

/-! ### Operations and lookup -/

theorem lookup_store (v : Values) (e : Entry) :
    (v.store e).lookup = Function.update v.lookup (inLowerCase e.name) (some e) := by
  funext key
  rw [Function.update_apply, lookup, store, find?_put, ← Text.fold_eq]
  show Option.map Slot.entry (if key = Text.fold e.name then some e.slot else _) = _
  split
  · rfl
  · rfl

/-- The slot with the key gets the value and keeps the spelling. -/
theorem lookup_assign {old : Entry} (hold : v.lookup key = some old) (value : String) :
    (v.assign key value).lookup = Function.update v.lookup key (some ⟨old.name, value⟩) := by
  funext other
  rw [Function.update_apply]
  show ((v.slots.map _).find? _).map Slot.entry = _
  rw [find?_assign]
  by_cases h : other = key
  · have hslot : v.slots.find? (·.key == key) = some ⟨key, old⟩ :=
      v.sorted.find?_of_mem (lookup_eq_some_iff.1 hold)
    rw [if_pos h, h, hslot, Option.map_some, Slot.assign, if_pos (beq_self_eq_true key)]
    rfl
  · rw [if_neg h, lookup, Option.map_map]
    refine Option.map_congr fun s hs => ?_
    have hkey : s.key = other := by simpa using List.find?_some hs
    show (s.assign key value).entry = s.entry
    rw [Slot.assign, if_neg (by simpa [hkey] using h)]

theorem lookup_without (v : Values) (key : String) :
    (v.without key).lookup = Function.update v.lookup key none := by
  funext other
  ext e
  rw [lookup_eq_some_iff, Function.update_apply, without, List.mem_filter]
  by_cases h : other = key
  · simp [h]
  · rw [if_neg h, lookup_eq_some_iff, and_iff_left (by simpa using h)]

theorem lookup_set (v : Values) (name value : String) :
    ((v.set name value).2.lookup, .ok (v.set name value).1) =
      v.lookup.perform (.set name value) := by
  rw [NameMap.perform, set, find?_eq_lookup, Text.fold_eq]
  rcases hold : v.lookup (inLowerCase name) with - | old
  · exact congrArg (·, _) (lookup_store v ⟨name, value⟩)
  · exact congrArg (·, _) (lookup_assign hold value)

theorem lookup_erase (v : Values) (name : String) :
    ((v.erase name).2.lookup, .ok (v.erase name).1) = v.lookup.perform (.remove name) := by
  rw [NameMap.perform, erase, find?_eq_lookup, Text.fold_eq]
  rcases hold : v.lookup (inLowerCase name) with - | old
  · have hself : Function.update v.lookup (inLowerCase name) none = v.lookup := by
      rw [← hold, Function.update_eq_self]
    exact congrArg (·, _) hself.symm
  · exact congrArg (·, _) (lookup_without v (inLowerCase name))

/-- **One operation.**  What is found after an operation, and its answer, are
those of the map. -/
theorem lookup_perform (v : Values) (op : Operation) :
    ((v.perform op).1.lookup, (v.perform op).2) = v.lookup.perform op := by
  cases op with
  | insert name value =>
    rw [perform, insert, contains, find?_eq_lookup, NameMap.perform]
    rcases v.lookup (inLowerCase name) with - | old
    · exact congrArg (·, _) (lookup_store v ⟨name, value⟩)
    · rfl
  | set name value => exact lookup_set v name value
  | remove name => exact lookup_erase v name

/-- **A run.**  What is found after operations is what the map has after
them. -/
theorem lookup_after (ops : List Operation) : (after ops).lookup = NameMap.after ops := by
  have hrun : ∀ v : Values, (ops.foldl (fun v op => (v.perform op).1) v).lookup =
      ops.foldl (fun m op => (m.perform op).1) v.lookup := by
    induction ops with
    | nil => exact fun v => rfl
    | cons op ops ih =>
      intro v
      rw [List.foldl_cons, List.foldl_cons, ih, ← lookup_perform]
  exact hrun empty

/-! ### Questions -/

theorem size_eq_ncard (v : Values) : v.size = {key | v.lookup key ≠ none}.ncard := by
  have hkeys : {key | v.lookup key ≠ none} = ((v.slots.map Slot.key).toFinset : Set String) := by
    ext key
    simp [lookup]
  rw [hkeys, Set.ncard_coe_finset, List.toFinset_card_of_nodup v.sorted.nodup, List.length_map,
    size]

theorem isEmpty_iff_lookup (v : Values) : v.isEmpty = true ↔ ∀ key, v.lookup key = none := by
  rw [isEmpty, List.isEmpty_iff]
  constructor
  · intro h key
    rw [lookup, h, List.find?_nil, Option.map_none]
  · intro h
    rw [List.eq_nil_iff_forall_not_mem]
    intro s hs
    have hfound : v.lookup s.key = some s.entry := lookup_eq_some_iff.2 hs
    rw [h s.key] at hfound
    cases hfound

/-- The names in lower case increase. -/
theorem increasing_entries (v : Values) :
    v.entries.Pairwise fun a b => CodePointLt (inLowerCase a.name) (inLowerCase b.name) := by
  have hkeys : (v.slots.map Slot.key).Pairwise CodePointLt := List.pairwise_map.2 v.sorted
  rw [map_key_slots, List.pairwise_map] at hkeys
  exact hkeys

theorem holds_lookup (v : Values) : v.Holds v.lookup where
  get?_eq name := by rw [get?, find?_eq_lookup]
  contains_eq name := by rw [contains, find?_eq_lookup]
  size_eq := v.size_eq_ncard
  isEmpty_iff := v.isEmpty_iff_lookup
  mem_iff _ _ := lookup_eq_some_iff.trans mem_slots_iff
  stored_iff _ _ := lookup_eq_some_iff
  keys_eq := v.map_key_slots
  increasing := v.increasing_entries

/-- **Values are a finite map.**  After every sequence of operations values
hold what the map holds after the same operations: they answer every question
as it does and list its entries once each, in the order of their keys, which
are the spellings in lower case.  Every further operation is answered as by
the map.  Values are equal exactly if they list the same entries, and exactly
if they stand for the same map. -/
theorem after_holds (ops : List Operation) :
    (after ops).Holds (NameMap.after ops) ∧
      (∀ op, ((after ops).perform op).2 = ((NameMap.after ops).perform op).2) ∧
      (∀ w : Values, w = after ops ↔ w.entries = (after ops).entries) ∧
      ∀ ops', after ops' = after ops ↔ NameMap.after ops' = NameMap.after ops := by
  refine ⟨?_, fun op => ?_, fun w => ?_, fun ops' => ?_⟩
  · rw [← lookup_after]
    exact holds_lookup _
  · rw [← lookup_after, ← lookup_perform]
  · constructor
    · rintro rfl
      rfl
    · intro h
      exact eq_of_perm (h ▸ List.Perm.refl _)
  · rw [← lookup_after, ← lookup_after, lookup_inj]

end Values

end ContainerMarkup
