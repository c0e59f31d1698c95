/-
ContainerMarkup/Disk/Path.lean

Paths.  A path is cut at its slashes into components; an empty component or
a single point stays where it is, two points go up.
-/
import ContainerMarkup.Text.Cut

namespace ContainerMarkup.Path

/-- The components of a path, empty ones included. -/
def components (path : String) : List String :=
  (Text.cut '/' path.toList).map String.ofList

/-- Whether a path starts at the top of the disk. -/
def isAbsolute (path : String) : Bool := path.toList.head? == some '/'

/-- Whether a component stays where it is. -/
def staysPut (component : String) : Bool := component.isEmpty || component == "."

/-- The component that goes up. -/
def up : String := ".."

/-- The name a path ends with, which is none if the path ends by going up or
goes nowhere. -/
def fileName? (path : String) : Option String :=
  (((components path).filter fun c => !staysPut c).getLast?).filter (· != up)

/-- The name a path ends with, or the path itself if there is none. -/
def displayName (path : String) : String := (fileName? path).getD path

end ContainerMarkup.Path
