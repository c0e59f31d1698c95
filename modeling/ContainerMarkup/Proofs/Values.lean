/-
ContainerMarkup/Proofs/Values.lean

What a list of insertions does to the values of a container.  Inserting
succeeds exactly if no two names involved are the same up to the case of
ASCII letters, and then the entries are those that were there and those that
were inserted, each once (`Values.insertAll_eq_ok_iff`).

Here and in what follows the case of ASCII letters is that of the alphabet:
`A` to `Z` have their lower case thirty-two code points on (`inLowerCase`).
Keys are names folded to it (`Text.fold_eq`).

The order of insertion leaves no trace: a map is determined by its entries
up to their order (`Values.eq_of_perm`), because the order of the keys, and
that the keys are those of the entries, are part of the type.
-/
import ContainerMarkup.Source.Group
import ContainerMarkup.Tree.Values

namespace ContainerMarkup

open Source

/-! ### Results -/

theorem bind_eq_ok_iff {ε α β : Type} {x : Except ε α} {f : α → Except ε β} {b : β} :
    x >>= f = .ok b ↔ ∃ a, x = .ok a ∧ f a = .ok b := by
  rcases x with e | a
  · constructor
    · intro h; cases h
    · rintro ⟨a, h, -⟩; cases h
  · constructor
    · intro h; exact ⟨a, rfl, h⟩
    · rintro ⟨a', h, hb⟩; cases h; exact hb

theorem mapError_eq_ok_iff {ε δ α : Type} {x : Except ε α} {f : ε → δ} {a : α} :
    x.mapError f = .ok a ↔ x = .ok a := by
  rcases x with e | b
  · constructor
    · intro h; cases h
    · intro h; cases h
  · constructor
    · intro h; cases h; rfl
    · intro h; cases h; rfl

theorem map_eq_ok_iff {ε α β : Type} {x : Except ε α} {f : α → β} {b : β} :
    x.map f = .ok b ↔ ∃ a, x = .ok a ∧ f a = b := by
  rcases x with e | a <;> simp [Except.map]

/-! ### Lower case -/

/-- A letter from `A` to `Z` in lower case; every other character as it is. -/
def lowered (c : Char) : Char := if 'A' ≤ c ∧ c ≤ 'Z' then Char.ofNat (c.toNat + 32) else c

/-- A name with its ASCII letters in lower case. -/
def inLowerCase (s : String) : String := String.ofList (s.toList.map lowered)

theorem toLower_of_not_upper {c : Char} (h : ¬ ('A' ≤ c ∧ c ≤ 'Z')) : c.toLower = c :=
  dif_neg h

theorem toNat_toLower {c : Char} (h : 'A' ≤ c ∧ c ≤ 'Z') : c.toLower.toNat = c.toNat + 32 := by
  have hrange : c.val.toNat ≤ 90 := h.2
  have hlow : c.toLower = _ := dif_pos h
  rw [hlow]
  show (c.val + 32).toNat = c.val.toNat + 32
  rw [UInt32.toNat_add]
  exact Nat.mod_eq_of_lt (show c.val.toNat + 32 < _ by omega)

theorem toLower_eq_lowered (c : Char) : c.toLower = lowered c := by
  rw [lowered]
  split
  · next h =>
    have hrange : c.val.toNat ≤ 90 := h.2
    have hvalid : (c.toNat + 32).isValidChar := .inl (show c.val.toNat + 32 < _ by omega)
    rw [Char.ofNat, dif_pos hvalid]
    exact Char.toNat_inj.1 (toNat_toLower h)
  · next h => exact toLower_of_not_upper h

/-- Folding a name puts its ASCII letters in lower case. -/
theorem Text.fold_eq (s : String) : Text.fold s = inLowerCase s := by
  have hmap : s.toList.map Char.toLower = s.toList.map lowered :=
    List.map_congr_left fun c _ => toLower_eq_lowered c
  rw [fold, foldChars, hmap, inLowerCase]

/-! ### Distinct names -/

/-- Names that differ pairwise in more than the case of ASCII letters. -/
def Distinct (names : List String) : Prop := (names.map inLowerCase).Nodup

instance (names : List String) : Decidable (Distinct names) :=
  inferInstanceAs (Decidable (names.map inLowerCase).Nodup)

theorem Distinct.perm {a b : List String} (h : a.Perm b) : Distinct a ↔ Distinct b :=
  (h.map inLowerCase).nodup_iff

theorem Distinct.left {a b : List String} (h : Distinct (a ++ b)) : Distinct a := by
  rw [Distinct, List.map_append] at h
  exact (List.nodup_append.1 h).1

/-- An attribute as an entry of a map. -/
def Source.Attribute.entry (a : Attribute) : Entry := ⟨a.name, a.value⟩

/-- An attribute as it is handed to an insertion. -/
def Source.Attribute.pair (a : Attribute) : String × String := (a.name, a.value)

/-! ### Lists in the order of keys -/

section Increasing

variable {α : Type} {key : α → String} {a : α} {xs : List α}

theorem putBy_perm (h : ∀ x ∈ xs, key x ≠ key a) : (putBy key a xs).Perm (a :: xs) := by
  induction xs with
  | nil => exact List.Perm.refl _
  | cons x xs ih =>
    rw [putBy]
    split
    · exact List.Perm.refl _
    · next hnlt =>
      split
      · have hrest : (putBy key a xs).Perm (a :: xs) :=
          ih fun y hy => h y (List.mem_cons_of_mem x hy)
        exact (hrest.cons x).trans (List.Perm.swap a x xs)
      · next hngt =>
        have hkey : key x = key a :=
          String.le_antisymm (String.not_lt.1 hnlt) (String.not_lt.1 hngt)
        exact absurd hkey (h x List.mem_cons_self)

theorem Increasing.nodup (h : Increasing key xs) : (xs.map key).Nodup := by
  rw [List.Nodup, List.pairwise_map]
  refine h.imp ?_
  intro a b hlt heq
  exact String.lt_irrefl _ (heq ▸ hlt)

/-- There is one increasing order. -/
theorem Increasing.eq_of_perm {ys : List α} (hxs : Increasing key xs) (hys : Increasing key ys)
    (h : xs.Perm ys) : xs = ys :=
  h.eq_of_pairwise
    (fun _ _ _ _ hab hba => absurd (String.lt_trans hab hba) (String.lt_irrefl _)) hxs hys

/-- An element is found by its key. -/
theorem Increasing.find?_of_mem (hxs : Increasing key xs) (h : a ∈ xs) :
    xs.find? (key · == key a) = some a := by
  induction xs with
  | nil => cases h
  | cons x xs ih =>
    obtain ⟨hx, hxs⟩ := List.pairwise_cons.1 hxs
    rcases List.mem_cons.1 h with rfl | hmem
    · simp
    · have hne : key x ≠ key a := fun heq => String.lt_irrefl _ (heq ▸ hx a hmem)
      rw [List.find?_cons_of_neg (by simpa using hne)]
      exact ih hxs hmem

end Increasing

namespace Values

/-- The keys of a map are determined by its entries. -/
theorem slots_eq (v : Values) : v.slots = v.entries.map Entry.slot := by
  rw [entries, List.map_map]
  symm
  refine (List.map_congr_left fun s hs => ?_).trans v.slots.map_id
  show (⟨Text.fold s.entry.name, s.entry⟩ : Slot) = s
  rw [← v.folded s hs]

/-- The keys are the names in lower case. -/
theorem map_key_slots (v : Values) :
    v.slots.map Slot.key = v.entries.map fun e => inLowerCase e.name := by
  rw [slots_eq, List.map_map]
  exact List.map_congr_left fun e _ => Text.fold_eq e.name

/-- The names of a map, as they are spelled. -/
def names (v : Values) : List String := v.entries.map Entry.name

theorem map_names (v : Values) : v.names.map inLowerCase = v.slots.map Slot.key := by
  rw [map_key_slots, names, List.map_map]
  rfl

/-- The names of a map are distinct. -/
theorem distinct_names (v : Values) : Distinct v.names := by
  rw [Distinct, map_names]
  exact v.sorted.nodup

/-- Maps with the same entries are equal: their order is that of the keys. -/
theorem eq_of_perm {v w : Values} (h : v.entries.Perm w.entries) : v = w := by
  have hslots : v.slots.Perm w.slots := by
    rw [slots_eq, slots_eq]
    exact h.map Entry.slot
  have heq : v.slots = w.slots := v.sorted.eq_of_perm w.sorted hslots
  obtain ⟨xs, hxs⟩ := v
  obtain ⟨ys, hys⟩ := w
  subst heq
  rfl

/-- An entry of a map is found by its name. -/
theorem find?_of_mem {v : Values} {e : Entry} (h : e ∈ v.entries) :
    v.find? e.name = some e := by
  obtain ⟨s, hs, rfl⟩ := List.mem_map.1 h
  show (v.slots.find? (·.key == Text.fold s.entry.name)).map Slot.entry = some s.entry
  rw [← v.folded s hs, v.sorted.find?_of_mem hs]
  rfl

/-! ### Insertions -/

theorem contains_eq_true_iff {v : Values} {name : String} :
    v.contains name = true ↔ inLowerCase name ∈ v.names.map inLowerCase := by
  rw [map_names, ← Text.fold_eq]
  simp only [contains, find?, Option.isSome_map, List.find?_isSome, List.mem_map, beq_iff_eq]

theorem insert_eq_ok_iff {v w : Values} {name value : String} :
    v.insert name value = .ok w ↔
      inLowerCase name ∉ v.names.map inLowerCase ∧ w = v.store ⟨name, value⟩ := by
  rw [insert, ← contains_eq_true_iff]
  split
  · next h => simp [h]
  · next h => simp [h, eq_comm]

/-- Storing an entry with a new name adds it and leaves the others alone. -/
theorem store_perm {v : Values} {e : Entry} (h : inLowerCase e.name ∉ v.names.map inLowerCase) :
    (v.store e).entries.Perm (e :: v.entries) := by
  rw [map_names, ← Text.fold_eq] at h
  have hput : (putBy Slot.key e.slot v.slots).Perm (e.slot :: v.slots) :=
    putBy_perm fun x hx hkey => h (List.mem_map.2 ⟨x, hx, hkey⟩)
  exact hput.map Slot.entry

@[simp] theorem insertAll_nil (v : Values) : v.insertAll [] = .ok v := rfl

theorem insertAll_cons (v : Values) (p : String × String) (ps : List (String × String)) :
    v.insertAll (p :: ps) = v.insert p.1 p.2 >>= (insertAll · ps) := rfl

theorem insertAll_append (v : Values) (ps qs : List (String × String)) :
    v.insertAll (ps ++ qs) = v.insertAll ps >>= (insertAll · qs) := by
  induction ps generalizing v with
  | nil => rfl
  | cons p ps ih =>
    rw [List.cons_append, insertAll_cons, insertAll_cons]
    rcases v.insert p.1 p.2 with f | w
    · rfl
    · exact ih w

/-- What a successful list of insertions has done. -/
theorem insertAll_perm {v w : Values} {as : List Attribute}
    (h : v.insertAll (as.map Attribute.pair) = .ok w) :
    w.entries.Perm (v.entries ++ as.map Attribute.entry) := by
  induction as generalizing v with
  | nil =>
    obtain rfl : v = w := Except.ok.inj h
    simp
  | cons a as ih =>
    rw [List.map_cons, insertAll_cons, bind_eq_ok_iff] at h
    obtain ⟨u, hu, h⟩ := h
    obtain ⟨hnew, rfl⟩ := insert_eq_ok_iff.1 hu
    have hstore := store_perm (e := a.entry) hnew
    calc
      List.Perm w.entries ((v.store a.entry).entries ++ as.map Attribute.entry) := ih h
      List.Perm _ (a.entry :: v.entries ++ as.map Attribute.entry) := hstore.append_right _
      List.Perm _ (v.entries ++ (a :: as).map Attribute.entry) := List.perm_middle.symm

theorem names_perm {v w : Values} {as : List Attribute}
    (h : w.entries.Perm (v.entries ++ as.map Attribute.entry)) :
    w.names.Perm (v.names ++ as.map Attribute.name) := by
  have hnames := h.map Entry.name
  rw [List.map_append, List.map_map] at hnames
  exact hnames

theorem exists_insertAll {v : Values} {as : List Attribute}
    (h : Distinct (v.names ++ as.map Attribute.name)) :
    ∃ w, v.insertAll (as.map Attribute.pair) = .ok w := by
  induction as generalizing v with
  | nil => exact ⟨v, rfl⟩
  | cons a as ih =>
    -- the first name is new, and what is left stays distinct once it is stored
    have hhead : Distinct (a.name :: (v.names ++ as.map Attribute.name)) :=
      (Distinct.perm List.perm_middle).1 h
    have hnew : inLowerCase a.name ∉ v.names.map inLowerCase := by
      intro hmem
      refine (List.nodup_cons.1 hhead).1 ?_
      rw [List.map_append]
      exact List.mem_append_left _ hmem
    have hnames : (v.store a.entry).names.Perm (a.name :: v.names) :=
      (store_perm (e := a.entry) hnew).map Entry.name
    obtain ⟨w, hw⟩ := ih ((Distinct.perm (hnames.append_right _)).2 hhead)
    refine ⟨w, ?_⟩
    have hinsert : v.insert a.pair.1 a.pair.2 = .ok (v.store a.entry) :=
      insert_eq_ok_iff.2 ⟨hnew, rfl⟩
    rw [List.map_cons, insertAll_cons, hinsert]
    exact hw

/-- **Insertions.**  A list of insertions succeeds exactly if all names are
distinct, and gives the map with the entries of both. -/
theorem insertAll_eq_ok_iff {v w : Values} {as : List Attribute} :
    v.insertAll (as.map Attribute.pair) = .ok w ↔
      Distinct (v.names ++ as.map Attribute.name) ∧
        w.entries.Perm (v.entries ++ as.map Attribute.entry) := by
  constructor
  · intro h
    have hperm := insertAll_perm h
    exact ⟨(Distinct.perm (names_perm hperm)).1 w.distinct_names, hperm⟩
  · rintro ⟨hdistinct, hperm⟩
    obtain ⟨u, hu⟩ := exists_insertAll hdistinct
    rw [hu, eq_of_perm ((insertAll_perm hu).trans hperm.symm)]

/-- Inserting the entries of a map into the empty one, in any order, gives
the map. -/
theorem insertAll_of_perm {v : Values} {as : List Attribute}
    (h : (as.map Attribute.entry).Perm v.entries) :
    empty.insertAll (as.map Attribute.pair) = .ok v := by
  have hnames : v.names.Perm (as.map Attribute.name) := names_perm (v := empty) h.symm
  exact insertAll_eq_ok_iff.2 ⟨(Distinct.perm hnames).1 v.distinct_names, h.symm⟩

end Values

end ContainerMarkup
