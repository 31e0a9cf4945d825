import FileShare.Bytes.Equality

/-!
# Names and paths

The name of a file or directory is any bytes but slash and zero. A **path** in the sense of this
library is a list of names from the root down, and says where something is. A **route** is what a
program asks for: steps from some directory, with dots, double dots and, when it is followed, links
in between.

A slash at the end of a route asks for a directory, which is what a step to the place itself does.
-/

namespace FileShare

/-- The name of an entry of a directory. -/
abbrev Name := ByteArray

/-- Where something is: the names from the root down. -/
abbrev Path := List Name

/-- One step of a route. -/
inductive Step where
  /-- Stay. -/
  | here
  /-- Go one level up. -/
  | up
  /-- Go to an entry. -/
  | name (name : Name)
  deriving DecidableEq, Inhabited

/-- A route as it is spelled. -/
structure Route where
  /-- Whether it starts at the root. -/
  fromRoot : Bool
  steps : List Step
  deriving DecidableEq, Inhabited

/-- What a path may not hold in one name: the most bytes. -/
def maxNameSize : Nat := 255

/-- The most bytes that a whole route may have. -/
def maxRouteSize : Nat := 4095

namespace Route

/-- The bytes between slashes. -/
def pieces : List UInt8 → List (List UInt8)
  | [] => [[]]
  | byte :: rest =>
    if byte = 47 then [] :: pieces rest
    else
      match pieces rest with
      | [] => [[byte]]
      | piece :: more => (byte :: piece) :: more

/-- The step of one piece; nothing between two slashes is no step. -/
def step? : List UInt8 → Option Step
  | [] => none
  | [46] => some .here
  | [46, 46] => some .up
  | bytes => some (.name ⟨bytes.toArray⟩)

/-- Read a route. -/
def ofBytes (bytes : ByteArray) : Route :=
  let list := bytes.data.toList
  let steps := (pieces list).filterMap step?
  let slashAtEnd := steps ≠ [] && list.getLast? == some 47
  ⟨list.head? == some 47, if slashAtEnd then steps ++ [.here] else steps⟩

end Route

/-- Whether a name is hidden: it starts with a dot. -/
def Name.isHidden (name : Name) : Bool :=
  name[0]? == some 46

/-- The order of names: byte by byte. -/
def Name.le (a b : Name) : Bool :=
  a.data.toList ≤ b.data.toList

end FileShare
