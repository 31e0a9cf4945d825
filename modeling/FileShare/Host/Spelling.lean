/-!
# Spelled paths

Settings and command lines hold paths as text. What is above a path and what its last name is can be
read off the text: repeated slashes, a slash at the end and dots that stand for the same directory
do not count, except for a dot at the very beginning.
-/

namespace FileShare

namespace Spelling

/-- Leave out what does not count at the end of a path, which is given backwards. -/
def trimBackwards : List Char → List Char
  | ['/'] => ['/']
  | '/' :: rest => trimBackwards rest
  | '.' :: '/' :: rest => trimBackwards ('/' :: rest)
  | chars => chars

/-- What a path consists of, backwards: its last name, and what is above it. A path that is empty or
the root has no last name. -/
def split? (path : String) : Option (List Char × List Char) :=
  match trimBackwards path.toList.reverse with
  | [] => none
  | ['/'] => none
  | chars => some (chars.takeWhile (· ≠ '/'), trimBackwards (chars.dropWhile (· ≠ '/')))

/-- The path above a path. -/
def parent? (path : String) : Option String :=
  (split? path).map fun (_, above) => String.ofList above.reverse

/-- The last name of a path, unless it only stands for a directory. -/
def name? (path : String) : Option String :=
  match split? path with
  | none => none
  | some (name, _) =>
    let name := String.ofList name.reverse
    if name = "." ∨ name = ".." then none else some name

/-- A path below another. -/
def join (base name : String) : String :=
  if base.isEmpty || base.endsWith "/" then base ++ name else base ++ "/" ++ name

/-- Whether a path starts from the root. -/
def isAbsolute (path : String) : Bool :=
  path.startsWith "/"

end Spelling

end FileShare
