/-
ContainerMarkup/Proofs/Export.lean

What an export keeps of a tree.

An object is looked up by key, so a container's parts can be read off its
object whatever the order of the members is: a missing `default` is one that
is not set, and missing `values` or `children` are empty ones.  Values come
sorted by their spelling (`Json.byKey_perm`), but a map is determined by its
entries in any order.  So nothing is lost (`Container.toJson_inj`), and since a text
determines its value, the text of an export determines the tree
(`jsonText_inj`).

The other way to write a tree has the members of every object in another
order and is otherwise the same: `Json.Reordered` compares values up to that
order, and `serialized_reordered` says that the two ways are so related.  No
member is lost or given twice, because the keys of every object are distinct
in both (`Json.DistinctKeys`): the names of a map differ even when folded.
-/
import ContainerMarkup.Json.Export
import ContainerMarkup.Proofs.JsonText
import ContainerMarkup.Proofs.Values
import Mathlib.Data.List.Forall2
import Mathlib.Data.List.Nodup
import Mathlib.Data.List.Perm.Basic

namespace ContainerMarkup

/-! ### Values -/

theorem Entry.toMember_injective : Function.Injective Entry.toMember := by
  rintro ⟨n, v⟩ ⟨n', v'⟩ h
  cases h
  rfl

namespace Json

variable {members sorted : List (String × Json)}

theorem increasing_foldl_putBy (h : Increasing Prod.fst sorted) :
    Increasing Prod.fst (members.foldl (fun sorted m => putBy Prod.fst m sorted) sorted) := by
  induction members generalizing sorted with
  | nil => exact h
  | cons m members ih => exact ih (h.putBy m)

theorem foldl_putBy_perm (h : ((sorted ++ members).map Prod.fst).Nodup) :
    (members.foldl (fun sorted m => putBy Prod.fst m sorted) sorted).Perm (sorted ++ members) := by
  induction members generalizing sorted with
  | nil => rw [List.append_nil, List.foldl_nil]
  | cons m members ih =>
    -- the key is new, so nothing gives way
    have hcons : ((m :: (sorted ++ members)).map Prod.fst).Nodup :=
      (List.perm_middle.map Prod.fst).nodup_iff.1 h
    have hput : (putBy Prod.fst m sorted).Perm (m :: sorted) := by
      refine putBy_perm fun x hx hkey => (List.nodup_cons.1 hcons).1 ?_
      exact hkey ▸ List.mem_map_of_mem (List.mem_append_left members hx)
    have hnodup : ((putBy Prod.fst m sorted ++ members).map Prod.fst).Nodup :=
      (((hput.append_right members).map Prod.fst).nodup_iff).2 hcons
    calc
      List.Perm _ (putBy Prod.fst m sorted ++ members) := ih hnodup
      List.Perm _ (m :: sorted ++ members) := hput.append_right members
      List.Perm _ (sorted ++ m :: members) := List.perm_middle.symm

/-- Members are taken in sorted by key. -/
theorem increasing_byKey (members : List (String × Json)) : Increasing Prod.fst (byKey members) :=
  increasing_foldl_putBy List.Pairwise.nil

/-- Members with distinct keys are all kept. -/
theorem byKey_perm (h : (members.map Prod.fst).Nodup) : (byKey members).Perm members :=
  foldl_putBy_perm h

end Json

namespace Values

theorem nodup_keys (v : Values) : (v.members.map Prod.fst).Nodup := by
  have hnames : v.members.map Prod.fst = v.names := by
    rw [members, names, List.map_map]
    rfl
  rw [hnames]
  exact List.Nodup.of_map inLowerCase v.distinct_names

/-- Sorting by spelling moves the members and does nothing else. -/
theorem sortedMembers_perm (v : Values) : v.sortedMembers.Perm v.members :=
  Json.byKey_perm v.nodup_keys

theorem sortedMembers_inj {v w : Values} (h : v.sortedMembers = w.sortedMembers) : v = w := by
  have hmembers : v.members.Perm w.members :=
    v.sortedMembers_perm.symm.trans (h ▸ w.sortedMembers_perm)
  exact eq_of_perm ((List.map_perm_map_iff Entry.toMember_injective).1 hmembers)

end Values

/-! ### Reading a container off its object -/

namespace Container

variable {config : ExportConfig}

/-- What is found under the four keys of a container's object. -/
theorem lookup_sortedMembers (config : ExportConfig) (name : String) (default : Option String)
    (values : Values) (children : List Json) :
    let members := sortedMembers config name default values children
    members.lookup "name" = some (.string name) ∧
    members.lookup "default" = default.map Json.string ∧
    members.lookup "values" =
      (if config.includeEmpty || !values.isEmpty then some (.object values.sortedMembers)
        else none) ∧
    members.lookup "children" =
      if config.includeEmpty || !children.isEmpty then some (.array children) else none := by
  simp only [sortedMembers]
  split <;> split <;> rcases default with - | d <;> exact ⟨rfl, rfl, rfl, rfl⟩

/-- A part that is left out when it is empty can be told from what is there
and what is not. -/
theorem eq_of_kept {α : Type} {keep : Bool} (isEmpty : α → Bool) (part : α → Json) {a b : α}
    (hpart : part a = part b → a = b) (hempty : isEmpty a → isEmpty b → a = b)
    (h : (if keep || !isEmpty a then some (part a) else none) =
      if keep || !isEmpty b then some (part b) else none) : a = b := by
  split at h <;> split at h
  · exact hpart (Option.some.inj h)
  · cases h
  · cases h
  · simp_all

theorem sortedMembers_inj {n n' : String} {d d' : Option String} {v v' : Values}
    {cs cs' : List Json}
    (h : sortedMembers config n d v cs = sortedMembers config n' d' v' cs') :
    n = n' ∧ d = d' ∧ v = v' ∧ cs = cs' := by
  obtain ⟨hname, hdefault, hvalues, hchildren⟩ := lookup_sortedMembers config n d v cs
  obtain ⟨hname', hdefault', hvalues', hchildren'⟩ := lookup_sortedMembers config n' d' v' cs'
  rw [h] at hname hdefault hvalues hchildren
  refine ⟨?_, ?_, ?_, ?_⟩
  · exact Json.string.inj (Option.some.inj (hname.symm.trans hname'))
  · have hinj : Function.Injective Json.string := fun s t => Json.string.inj
    exact Option.map_injective hinj (hdefault.symm.trans hdefault')
  · refine eq_of_kept Values.isEmpty (fun v => .object v.sortedMembers) (fun hpart => ?_)
      (fun hv hv' => ?_) (hvalues.symm.trans hvalues')
    · exact Values.sortedMembers_inj (Json.object.inj hpart)
    · refine Values.eq_of_perm ?_
      rw [← Values.isEmpty_entries, List.isEmpty_iff] at hv hv'
      rw [hv, hv']
  · refine eq_of_kept List.isEmpty Json.array (fun hpart => ?_) (fun hcs hcs' => ?_)
      (hchildren.symm.trans hchildren')
    · exact Json.array.inj hpart
    · rw [List.isEmpty_iff.1 hcs, List.isEmpty_iff.1 hcs']

mutual
/-- **Nothing is lost in an export that prunes nothing.** -/
theorem toJson_inj (hkeep : config.pruneUseless = false) :
    (a b : Container) → a.toJson config = b.toJson config → a = b
  | ⟨n, d, v, cs⟩, ⟨n', d', v', cs'⟩, h => by
    rw [toJson, toJson] at h
    obtain ⟨rfl, rfl, rfl, hchildren⟩ := sortedMembers_inj (Json.object.inj h)
    rw [toJsonAll_inj hkeep cs cs' hchildren]

theorem toJsonAll_inj (hkeep : config.pruneUseless = false) :
    (as bs : List Container) → toJsonAll config as = toJsonAll config bs → as = bs
  | [], [], _ => rfl
  | [], b :: bs, h => by simp [toJsonAll, hkeep] at h
  | a :: as, [], h => by simp [toJsonAll, hkeep] at h
  | a :: as, b :: bs, h => by
    simp only [toJsonAll, hkeep, Bool.false_and, Bool.false_eq_true, if_false,
      List.cons.injEq] at h
    rw [toJson_inj hkeep a b h.1, toJsonAll_inj hkeep as bs h.2]
end

/-- **An export loses nothing.**  Two trees with the same text are the same
tree, in either layout and whether or not empty members are written, as long
as no container is pruned. -/
theorem jsonText_inj (config : ExportConfig) (hkeep : config.pruneUseless = false)
    (a b : Container) : a.jsonText config = b.jsonText config ↔ a = b := by
  have hblank : (if config.pretty then Json.Layout.pretty else Json.Layout.compact).Blank := by
    split
    · exact Json.Layout.pretty_blank
    · exact Json.Layout.compact_blank
  rw [jsonText, jsonText, Json.render_inj hblank]
  constructor
  · exact toJson_inj hkeep a b
  · rintro rfl
    rfl

/-- A default that is set but empty, the spelling of a name and the order of
children all show in the shortest text there is. -/
theorem jsonText_inj_compact :
    let config : ExportConfig := { includeEmpty := false, pretty := false }
    let leaf (name : String) : Container := ⟨name, none, Values.empty, []⟩
    let spelled (key : String) : Container :=
      ⟨"A", none, Values.empty.store ⟨key, "1"⟩, []⟩
    config.pruneUseless = false ∧
      (leaf "A").jsonText config ≠ { leaf "A" with default := some "" }.jsonText config ∧
      (spelled "k").jsonText config ≠ (spelled "K").jsonText config ∧
      { leaf "A" with children := [leaf "B", leaf "C"] }.jsonText config ≠
        { leaf "A" with children := [leaf "C", leaf "B"] }.jsonText config := by
  intro config leaf spelled
  refine ⟨rfl, ?_, ?_, ?_⟩
  all_goals
    rw [Ne, jsonText_inj config rfl]
    decide

end Container

/-! ### Values up to the order of members -/

namespace Json

/-- The same value up to the order of the members of objects, at every
level. -/
inductive Reordered : Json → Json → Prop
  | string (s : String) : Reordered (.string s) (.string s)
  | array {xs ys : List Json} : List.Forall₂ Reordered xs ys → Reordered (.array xs) (.array ys)
  /-- The members of one object are put in another order, and are then those
  of the other object key by key. -/
  | object {ms ns os : List (String × Json)} : ms.Perm ns →
      ns.map Prod.fst = os.map Prod.fst →
      List.Forall₂ Reordered (ns.map Prod.snd) (os.map Prod.snd) →
      Reordered (.object ms) (.object os)

/-- No object has two members with the same key, at any level. -/
inductive DistinctKeys : Json → Prop
  | string (s : String) : DistinctKeys (.string s)
  | array {items : List Json} : (∀ j ∈ items, DistinctKeys j) → DistinctKeys (.array items)
  | object {members : List (String × Json)} : (members.map Prod.fst).Nodup →
      (∀ m ∈ members, DistinctKeys m.2) → DistinctKeys (.object members)

/-- Putting members in another order gives no key twice. -/
theorem Reordered.distinctKeys {j k : Json} (h : j.Reordered k) :
    j.DistinctKeys → k.DistinctKeys := by
  -- the second motive is the statement for the items of an array and the values of an object
  refine @Reordered.rec (fun j k _ => j.DistinctKeys → k.DistinctKeys)
    (fun xs ys _ => (∀ j ∈ xs, j.DistinctKeys) → ∀ k ∈ ys, k.DistinctKeys) ?_ ?_ ?_ ?_ ?_ j k h
  · exact fun s hs => hs
  · rintro xs ys - ih (_ | hitems)
    exact .array (ih hitems)
  · rintro ms ns os hperm hkeys - ih (_ | _ | ⟨hnodup, hmembers⟩)
    refine .object (hkeys ▸ (hperm.map Prod.fst).nodup_iff.1 hnodup) fun m hm => ?_
    refine ih (fun j hj => ?_) m.2 (List.mem_map_of_mem hm)
    obtain ⟨n, hn, rfl⟩ := List.mem_map.1 hj
    exact hmembers n (hperm.mem_iff.2 hn)
  · exact fun hnil => hnil
  · intro x y xs ys _ _ ihx ihxs hall
    rw [List.forall_mem_cons] at hall ⊢
    exact ⟨ihx hall.1, ihxs hall.2⟩

end Json

namespace Values

theorem reordered_members (v : Values) :
    (Json.object v.members).Reordered (.object v.sortedMembers) := by
  refine .object v.sortedMembers_perm.symm rfl (List.forall₂_same.2 fun j hj => ?_)
  obtain ⟨m, hm, rfl⟩ := List.mem_map.1 hj
  obtain ⟨e, -, rfl⟩ := List.mem_map.1 (v.sortedMembers_perm.mem_iff.1 hm)
  exact .string e.value

theorem distinctKeys_members (v : Values) : (Json.object v.members).DistinctKeys := by
  refine .object v.nodup_keys fun m hm => ?_
  obtain ⟨e, -, rfl⟩ := List.mem_map.1 hm
  exact .string e.value

end Values

namespace Container

open Json

mutual
/-- The two ways to write a tree differ in the order of members only. -/
theorem toOrderedJson_reordered : (c : Container) → c.toOrderedJson.Reordered (c.toJson {})
  | ⟨name, default, values, children⟩ => by
    have hvalues := values.reordered_members
    have hchildren := Reordered.array (toOrderedJsonAll_reordered children)
    -- the children come first, and the name moves behind the default
    have hperm : ∀ (n v c : String × Json) (ds : List (String × Json)),
        (n :: ds ++ [v, c]).Perm ([c] ++ ds ++ [n] ++ [v]) := by
      intro n v c ds
      calc
        List.Perm (n :: ds ++ [v, c]) (n :: ds ++ [v] ++ [c]) := by rw [List.append_assoc]; rfl
        List.Perm _ ([c] ++ (n :: ds ++ [v])) := List.perm_append_comm
        List.Perm _ ([c] ++ (ds ++ n :: [v])) := List.perm_middle.symm.append_left [c]
        List.Perm _ ([c] ++ ds ++ [n] ++ [v]) := by simp
    rw [toOrderedJson, toJson]
    refine .object (hperm _ _ _ _) ?_ ?_
    · rcases default with - | d <;> rfl
    · rcases default with - | d
      · exact .cons hchildren (.cons (.string name) (.cons hvalues .nil))
      · exact .cons hchildren (.cons (.string d) (.cons (.string name) (.cons hvalues .nil)))

theorem toOrderedJsonAll_reordered :
    (cs : List Container) → List.Forall₂ Reordered (toOrderedJsonAll cs) (toJsonAll {} cs)
  | [] => by
    rw [toOrderedJsonAll, toJsonAll]
    exact .nil
  | c :: cs => by
    rw [toOrderedJsonAll, toJsonAll]
    exact .cons (toOrderedJson_reordered c) (toOrderedJsonAll_reordered cs)
end

mutual
theorem distinctKeys_toOrderedJson : (c : Container) → c.toOrderedJson.DistinctKeys
  | ⟨name, default, values, children⟩ => by
    have hvalues := values.distinctKeys_members
    have hchildren := DistinctKeys.array (distinctKeys_toOrderedJsonAll children)
    rw [toOrderedJson]
    refine .object ?_ ?_
    · rcases default with - | d <;> simp
    · rcases default with - | d <;> simp [hvalues, hchildren, DistinctKeys.string]

theorem distinctKeys_toOrderedJsonAll :
    (cs : List Container) → ∀ j ∈ toOrderedJsonAll cs, j.DistinctKeys
  | [] => by
    intro j hj
    rw [toOrderedJsonAll] at hj
    cases hj
  | c :: cs => by
    rw [toOrderedJsonAll]
    exact List.forall_mem_cons.2
      ⟨distinctKeys_toOrderedJson c, distinctKeys_toOrderedJsonAll cs⟩
end

/-- **Both ways to write a tree say the same.**  The text of a serialized tree
is that of one value only.  This value is the plain export up to the order of
members, at every level, and neither of the two has an object in which a key
is given twice. -/
theorem serialized_reordered (c : Container) :
    ∃ j : Json, (∀ k : Json, k.compact = c.serialized ↔ k = j) ∧
      j.Reordered (c.toJson {}) ∧ j.DistinctKeys ∧ (c.toJson {}).DistinctKeys := by
  have hsame := toOrderedJson_reordered c
  have hdistinct := distinctKeys_toOrderedJson c
  exact ⟨c.toOrderedJson, fun k => Json.render_inj Json.Layout.compact_blank, hsame, hdistinct,
    hsame.distinctKeys hdistinct⟩

end Container

end ContainerMarkup
