/-
ContainerMarkup/Json/Export.lean

A container tree as JSON.  Each container is an object with the members
`name`, `default` (if set), `values` and `children`.

* `Container.toJson` sorts the members of every object by key and obeys an
  export configuration: useless children may be left out, and so may empty
  values and children.
* `Container.toOrderedJson` gives the members in the order above, with values
  in the order of their folded names, and leaves nothing out.
-/
import ContainerMarkup.Json.Value
import ContainerMarkup.Tree.Container

namespace ContainerMarkup

/-- What an export leaves out, and how its text is laid out. -/
structure ExportConfig where
  /-- Leave out useless children, as they stand in the tree. -/
  pruneUseless : Bool := false
  /-- Keep members for values and children where there are none. -/
  includeEmpty : Bool := true
  /-- Break lines. -/
  pretty : Bool := true
deriving DecidableEq, Repr

/-! ### Values -/

/-- An entry as a member of an object. -/
def Entry.toMember (e : Entry) : String × Json := (e.name, .string e.value)

/-- Members in the order of their keys, taken in one after the other; of two
with the same key the later one stays. -/
def Json.byKey (members : List (String × Json)) : List (String × Json) :=
  members.foldl (fun sorted m => putBy Prod.fst m sorted) []

/-- Values as members, in the order of their folded names. -/
def Values.members (v : Values) : List (String × Json) := v.entries.map Entry.toMember

/-- Values as members, in the order of their spellings. -/
def Values.sortedMembers (v : Values) : List (String × Json) := Json.byKey v.members

/-! ### Containers -/

namespace Container

/-- The members of a container's object, sorted by key. -/
def sortedMembers (config : ExportConfig) (name : String) (default : Option String)
    (values : Values) (children : List Json) : List (String × Json) :=
  (if config.includeEmpty || !children.isEmpty then [("children", .array children)] else []) ++
    (default.map fun d => ("default", .string d)).toList ++
      [("name", .string name)] ++
        (if config.includeEmpty || !values.isEmpty then
          [("values", .object values.sortedMembers)] else [])

mutual
/-- A tree as JSON. -/
def toJson (config : ExportConfig) : Container → Json
  | ⟨name, default, values, children⟩ =>
    .object (sortedMembers config name default values (toJsonAll config children))

/-- Children as JSON, less those to be left out. -/
def toJsonAll (config : ExportConfig) : List Container → List Json
  | [] => []
  | c :: rest =>
    if config.pruneUseless && c.isUseless then toJsonAll config rest
    else toJson config c :: toJsonAll config rest
end

mutual
/-- A tree as JSON, the members in the order of a container's parts. -/
def toOrderedJson : Container → Json
  | ⟨name, default, values, children⟩ =>
    .object (("name", .string name) :: (default.map fun d => ("default", .string d)).toList ++
      [("values", .object values.members), ("children", .array (toOrderedJsonAll children))])

/-- Children as JSON, the members in the order of a container's parts. -/
def toOrderedJsonAll : List Container → List Json
  | [] => []
  | c :: rest => toOrderedJson c :: toOrderedJsonAll rest
end

/-- The text of an export. -/
def jsonText (config : ExportConfig) (c : Container) : String :=
  (c.toJson config).render (if config.pretty then .pretty else .compact)

/-- The text of a tree with the members in the order of a container's
parts. -/
def serialized (c : Container) : String := c.toOrderedJson.compact

end Container

end ContainerMarkup
