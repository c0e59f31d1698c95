/-
ContainerMarkup/Proofs/ExportOptions.lean

The options of an export, one at a time.  An export leaves out useless
children and empty members in a single pass.  The same comes of three passes,
of which each knows one rule only:

    c.toJson config = config.strip (config.prune c).full

`prune` works on the tree and judges every child as it stands there, with all
of its own children.  `full` writes all members.  `strip` works on the JSON
and takes the empty parts out of the objects of containers; it gets from one
object to the next through `children` alone, so that a value which happens to
have that name is left in peace.

The objects of an export can be listed in the same way (`Json.nodes`), and so
can the containers of a tree, each with its lineage: the containers it is in,
less the root, and itself (`Container.lineages`).

Main result: the equation above, and that the objects of an export are those
of the containers without a useless one in their lineage, in the same order
(`Container.toJson_options`).
-/
import ContainerMarkup.Proofs.Export

namespace ContainerMarkup

/-! ### Plain exports -/

namespace Json

/-- The object with these members, sorted by key. -/
def ofMembers (members : List (String × Json)) : Json :=
  .object (members.mergeSort fun a b => decide (a.1 ≤ b.1))

end Json

namespace Container

mutual
/-- A tree as JSON with all members present. -/
def full : Container → Json
  | ⟨name, default, values, children⟩ =>
    .ofMembers (("name", .string name) :: (default.map fun d => ("default", .string d)).toList ++
      [("values", .ofMembers values.members), ("children", .array (fullAll children))])

/-- Children as JSON with all members present. -/
def fullAll : List Container → List Json
  | [] => []
  | c :: rest => full c :: fullAll rest
end

/-! ### Pruning a tree -/

mutual
/-- A tree less the children that are useless in it, at every level. -/
def pruned : Container → Container
  | ⟨name, default, values, children⟩ => ⟨name, default, values, prunedAll children⟩

/-- Children less those that are useless, each pruned itself. -/
def prunedAll : List Container → List Container
  | [] => []
  | c :: rest => if c.isUseless then prunedAll rest else pruned c :: prunedAll rest
end

end Container

/-! ### Stripping an export -/

namespace Json

/-- Whether a member of a container's object says that there are no values or
no children. -/
def isEmptyPart (key : String) : Json → Bool
  | .object [] => key == "values"
  | .array [] => key == "children"
  | _ => false

mutual
/-- A container's object without its empty parts, and so for its children. -/
def stripped : Json → Json
  | .object members => .object (strippedMembers members)
  | j => j

/-- The members of a container's object without the empty parts. -/
def strippedMembers : List (String × Json) → List (String × Json)
  | [] => []
  | (key, value) :: rest =>
    if isEmptyPart key value then strippedMembers rest
    else (key, if key = "children" then strippedChildren value else value) :: strippedMembers rest

/-- The objects of children without their empty parts. -/
def strippedChildren : Json → Json
  | .array items => .array (strippedAll items)
  | j => j

/-- Objects without their empty parts. -/
def strippedAll : List Json → List Json
  | [] => []
  | j :: rest => stripped j :: strippedAll rest
end

theorem strippedAll_eq_map (js : List Json) : strippedAll js = js.map stripped := by
  induction js with
  | nil => rfl
  | cons j js ih => rw [strippedAll, ih, List.map_cons]

theorem strippedMembers_append (ms ns : List (String × Json)) :
    strippedMembers (ms ++ ns) = strippedMembers ms ++ strippedMembers ns := by
  induction ms with
  | nil => rfl
  | cons m ms ih =>
    rw [List.cons_append, strippedMembers, strippedMembers, ih]
    split <;> rfl

/-! ### The containers in an export and in a tree -/

mutual
/-- The objects of the containers in an export, each before those of its
children. -/
def nodes : Json → List Json
  | .object members => .object members :: memberNodes members
  | _ => []

/-- The objects of the containers under a member with children. -/
def memberNodes : List (String × Json) → List Json
  | [] => []
  | (key, value) :: rest =>
    (if key = "children" then childNodes value else []) ++ memberNodes rest

/-- The objects of the containers among children. -/
def childNodes : Json → List Json
  | .array items => nodesAll items
  | _ => []

/-- The objects of the containers in several exports. -/
def nodesAll : List Json → List Json
  | [] => []
  | j :: rest => nodes j ++ nodesAll rest
end

theorem memberNodes_append (ms ns : List (String × Json)) :
    memberNodes (ms ++ ns) = memberNodes ms ++ memberNodes ns := by
  induction ms with
  | nil => rfl
  | cons m ms ih =>
    rw [List.cons_append, memberNodes, memberNodes, ih, List.append_assoc]

end Json

namespace Container

mutual
/-- The containers of a tree, each before its children and with its lineage,
given that of the root. -/
def lineages (lineage : List Container) : Container → List (List Container × Container)
  | ⟨name, default, values, children⟩ =>
    (lineage, ⟨name, default, values, children⟩) :: lineagesAll lineage children

/-- The containers in children, given the lineage of their parent. -/
def lineagesAll (lineage : List Container) : List Container → List (List Container × Container)
  | [] => []
  | c :: rest => lineages (lineage ++ [c]) c ++ lineagesAll lineage rest
end

end Container

namespace ExportConfig

/-- The tree, pruned if an export is to leave out useless children. -/
def prune (config : ExportConfig) (c : Container) : Container :=
  if config.pruneUseless then c.pruned else c

/-- The JSON, stripped if an export is to leave out empty parts. -/
def strip (config : ExportConfig) (j : Json) : Json :=
  if config.includeEmpty then j else j.stripped

/-- Whether an export shows a container with this lineage. -/
def spares (config : ExportConfig) (lineage : List Container) : Bool :=
  !(config.pruneUseless && lineage.any Container.isUseless)

theorem spares_append (config : ExportConfig) (lineage more : List Container) :
    config.spares (lineage ++ more) = (config.spares lineage && config.spares more) := by
  rw [spares, spares, spares, List.any_append]
  rcases config.pruneUseless
  · rfl
  · simp

theorem spares_singleton (config : ExportConfig) (c : Container) :
    config.spares [c] = !(config.pruneUseless && c.isUseless) := by
  simp [spares]

end ExportConfig

/-! ### Members in order -/

/-- Members are sorted by key in one way only, if no two keys are the same. -/
theorem mergeSort_eq_of_perm {xs ys : List (String × Json)} (hperm : xs.Perm ys)
    (hsorted : (ys.map Prod.fst).Pairwise (· < ·)) :
    (xs.mergeSort fun a b => decide (a.1 ≤ b.1)) = ys := by
  have hmerge : (xs.mergeSort fun a b => decide (a.1 ≤ b.1)).Perm ys :=
    (List.mergeSort_perm xs _).trans hperm
  have hkeys : (ys.map Prod.fst).Nodup := by
    refine hsorted.imp ?_
    intro a b hlt heq
    exact String.lt_irrefl _ (heq ▸ hlt)
  have hxs : (xs.mergeSort fun a b => decide (a.1 ≤ b.1)).Pairwise fun a b => a.1 ≤ b.1 := by
    refine (List.pairwise_mergeSort ?_ ?_ xs).imp of_decide_eq_true
    · intro a b c hab hbc
      exact decide_eq_true (String.le_trans (of_decide_eq_true hab) (of_decide_eq_true hbc))
    · intro a b
      rw [Bool.or_eq_true, decide_eq_true_iff, decide_eq_true_iff]
      exact String.le_total a.1 b.1
  have hys : ys.Pairwise fun a b => a.1 ≤ b.1 := by
    rw [List.pairwise_map] at hsorted
    exact hsorted.imp fun hlt => String.not_lt.1 (String.lt_asymm hlt)
  refine List.Perm.eq_of_pairwise ?_ hxs hys hmerge
  intro a b ha hb hab hba
  exact List.inj_on_of_nodup_map hkeys (hmerge.mem_iff.1 ha) hb (String.le_antisymm hab hba)

/-- Values taken in one after the other are sorted as a whole. -/
theorem Values.ofMembers_members (v : Values) :
    Json.ofMembers v.members = .object v.sortedMembers := by
  rw [Json.ofMembers, mergeSort_eq_of_perm v.sortedMembers_perm.symm]
  exact List.pairwise_map.2 (Json.increasing_byKey v.members)

namespace Container

open Json

variable {config : ExportConfig}

/-- The members of an export with all members present, in their order. -/
theorem full_eq (name : String) (default : Option String) (values : Values)
    (children : List Container) :
    full ⟨name, default, values, children⟩ =
      .object (sortedMembers {} name default values (fullAll children)) := by
  rw [full, Values.ofMembers_members, Json.ofMembers, mergeSort_eq_of_perm]
  · -- the children come first, and the name moves behind the default
    rcases default with - | d
    · exact List.perm_append_singleton _ [_, _]
    · exact (List.perm_append_singleton _ [_, _, _]).trans ((List.Perm.swap _ _ _).cons _)
  · rcases default with - | d
    · show ["children", "name", "values"].Pairwise (· < ·)
      decide
    · show ["children", "default", "name", "values"].Pairwise (· < ·)
      decide

/-! ### Stripping -/

/-- Stripping leaves out the parts that an export without empty parts leaves
out, and strips the children. -/
theorem stripped_sortedMembers (hinclude : config.includeEmpty = false) (name : String)
    (default : Option String) (values : Values) (children : List Json) :
    strippedMembers (sortedMembers {} name default values children) =
      sortedMembers config name default values (children.map stripped) := by
  have hchildren : strippedMembers [("children", .array children)] =
      if !children.isEmpty then [("children", .array (children.map stripped))] else [] := by
    rcases children with - | ⟨j, js⟩
    · rfl
    · rw [← strippedAll_eq_map]
      rfl
  have hdefault : strippedMembers (default.map fun d => ("default", Json.string d)).toList =
      (default.map fun d => ("default", Json.string d)).toList := by
    rcases default with - | d <;> rfl
  have hvalues : strippedMembers [("values", .object values.sortedMembers)] =
      if !values.isEmpty then [("values", .object values.sortedMembers)] else [] := by
    have hempty : values.isEmpty = values.sortedMembers.isEmpty := by
      rw [values.sortedMembers_perm.isEmpty_eq, Values.members, List.isEmpty_map,
        Values.isEmpty_entries]
    rw [hempty]
    rcases values.sortedMembers with - | ⟨m, ms⟩ <;> rfl
  have hname : strippedMembers [("name", .string name)] = [("name", .string name)] := rfl
  have hall : sortedMembers {} name default values children =
      [("children", .array children)] ++ (default.map fun d => ("default", .string d)).toList ++
        [("name", .string name)] ++ [("values", .object values.sortedMembers)] := rfl
  rw [hall, strippedMembers_append, strippedMembers_append, strippedMembers_append, hchildren,
    hdefault, hname, hvalues, sortedMembers, hinclude, List.isEmpty_map, Bool.false_or,
    Bool.false_or]

theorem strip_sortedMembers (config : ExportConfig) (name : String) (default : Option String)
    (values : Values) (children : List Json) :
    config.strip (.object (sortedMembers {} name default values children)) =
      .object (sortedMembers config name default values (children.map config.strip)) := by
  unfold ExportConfig.strip
  rcases hinclude : config.includeEmpty with - | -
  · exact congrArg Json.object (stripped_sortedMembers hinclude name default values children)
  · simp [sortedMembers, hinclude]

mutual
theorem toJson_eq_strip (hkeep : config.pruneUseless = false) :
    (c : Container) → c.toJson config = config.strip c.full
  | ⟨name, default, values, children⟩ => by
    rw [toJson, toJsonAll_eq_strip hkeep children, full_eq, strip_sortedMembers]

theorem toJsonAll_eq_strip (hkeep : config.pruneUseless = false) :
    (cs : List Container) → toJsonAll config cs = (fullAll cs).map config.strip
  | [] => by rw [toJsonAll, fullAll, List.map_nil]
  | c :: cs => by
    rw [toJsonAll, if_neg (by simp [hkeep]), toJson_eq_strip hkeep c, toJsonAll_eq_strip hkeep cs,
      fullAll, List.map_cons]
end

/-! ### Pruning -/

mutual
theorem toJson_pruned (hprune : config.pruneUseless = true) :
    (c : Container) → c.toJson config = c.pruned.toJson { config with pruneUseless := false }
  | ⟨name, default, values, children⟩ => by
    rw [toJson, pruned, toJson, toJsonAll_pruned hprune children]
    rfl

theorem toJsonAll_pruned (hprune : config.pruneUseless = true) :
    (cs : List Container) →
      toJsonAll config cs = toJsonAll { config with pruneUseless := false } (prunedAll cs)
  | [] => by rw [toJsonAll, prunedAll, toJsonAll]
  | c :: cs => by
    rw [toJsonAll, prunedAll, hprune, Bool.true_and, toJsonAll_pruned hprune cs]
    split
    · rfl
    · rw [toJsonAll, if_neg (by simp), toJson_pruned hprune c]
end

theorem toJson_prune (config : ExportConfig) (c : Container) :
    c.toJson config = (config.prune c).toJson { config with pruneUseless := false } := by
  rw [ExportConfig.prune]
  split
  · next hprune => exact toJson_pruned hprune c
  · next hprune =>
    rw [Bool.not_eq_true] at hprune
    rw [← hprune]

/-! ### Objects and lineages -/

/-- All other containers in a container's object are among its children. -/
theorem nodes_sortedMembers (config : ExportConfig) (name : String) (default : Option String)
    (values : Values) (children : List Json) :
    (Json.object (sortedMembers config name default values children)).nodes =
      .object (sortedMembers config name default values children) :: nodesAll children := by
  have hchildren : memberNodes (if config.includeEmpty || !children.isEmpty then
      [("children", .array children)] else []) = nodesAll children := by
    rcases children with - | ⟨j, js⟩
    · split <;> rfl
    · rw [if_pos (by simp)]
      exact List.append_nil _
  have hdefault : memberNodes (default.map fun d => ("default", Json.string d)).toList = [] := by
    rcases default with - | d <;> rfl
  have hvalues : memberNodes (if config.includeEmpty || !values.isEmpty then
      [("values", .object values.sortedMembers)] else []) = [] := by
    split <;> rfl
  have hname : memberNodes [("name", .string name)] = [] := rfl
  rw [Json.nodes, sortedMembers, memberNodes_append, memberNodes_append, memberNodes_append,
    hchildren, hdefault, hname, hvalues, List.append_nil, List.append_nil, List.append_nil]

mutual
/-- Everything in a tree has the lineage of its root, and more. -/
theorem lineage_begins : (c : Container) → (lineage : List Container) →
    ∀ p ∈ c.lineages lineage, lineage <+: p.1
  | ⟨name, default, values, children⟩, lineage => by
    rw [lineages]
    exact List.forall_mem_cons.2 ⟨List.prefix_refl lineage, lineage_begins_all children lineage⟩

theorem lineage_begins_all : (cs : List Container) → (lineage : List Container) →
    ∀ p ∈ lineagesAll lineage cs, lineage <+: p.1
  | [], lineage => by
    rw [lineagesAll]
    simp
  | c :: cs, lineage => by
    rw [lineagesAll]
    intro p hp
    rcases List.mem_append.1 hp with hp | hp
    · exact (List.prefix_append lineage [c]).trans (lineage_begins c (lineage ++ [c]) p hp)
    · exact lineage_begins_all cs lineage p hp
end

mutual
theorem nodes_toJson (config : ExportConfig) : (c : Container) → (lineage : List Container) →
    config.spares lineage → (c.toJson config).nodes =
      ((c.lineages lineage).filter fun p => config.spares p.1).map fun p => p.2.toJson config
  | ⟨name, default, values, children⟩, lineage, hspared => by
    rw [lineages, List.filter_cons, if_pos hspared, List.map_cons,
      ← nodesAll_toJsonAll config children lineage hspared, toJson, nodes_sortedMembers]

theorem nodesAll_toJsonAll (config : ExportConfig) : (cs : List Container) →
    (lineage : List Container) → config.spares lineage → nodesAll (toJsonAll config cs) =
      ((lineagesAll lineage cs).filter fun p => config.spares p.1).map fun p => p.2.toJson config
  | [], lineage, hspared => by
    rw [toJsonAll, lineagesAll, nodesAll, List.filter_nil, List.map_nil]
  | c :: cs, lineage, hspared => by
    rw [lineagesAll, List.filter_append, List.map_append,
      ← nodesAll_toJsonAll config cs lineage hspared, toJsonAll]
    split
    · next huseless =>
      -- what is in a child that is left out has the child in its lineage
      have hnone : (c.lineages (lineage ++ [c])).filter (fun p => config.spares p.1) = [] := by
        rw [List.filter_eq_nil_iff]
        intro p hp
        obtain ⟨more, hmore⟩ := lineage_begins c (lineage ++ [c]) p hp
        rw [← hmore, config.spares_append, config.spares_append, config.spares_singleton, huseless]
        simp
      rw [hnone, List.map_nil, List.nil_append]
    · next huseless =>
      have hspared' : config.spares (lineage ++ [c]) := by
        rw [config.spares_append, config.spares_singleton, hspared, Bool.eq_false_iff.2 huseless]
        rfl
      rw [nodesAll, nodes_toJson config c _ hspared']
end

/-- **The options of an export.**  An export with options is the plain export
of the pruned tree, stripped.  So it shows a container exactly if no useless
one is in its lineage, or nothing is pruned, and keeps the order. -/
theorem toJson_options (config : ExportConfig) (c : Container) :
    c.toJson config = config.strip (config.prune c).full ∧
      (c.toJson config).nodes =
        ((c.lineages []).filter fun p => config.spares p.1).map fun p => p.2.toJson config := by
  refine ⟨?_, ?_⟩
  · rw [toJson_prune, toJson_eq_strip rfl]
    rfl
  · apply nodes_toJson
    simp [ExportConfig.spares]

end Container

end ContainerMarkup
