import ProbeWatch.Text.Blank

/-!
# Paths

A path is a text of names between slashes.  The functions that name the parent of a path or change
its extension work on the text alone; only a walk over the disk gives the names their meaning.
-/

namespace ProbeWatch.Path

/-- The name of the directory itself. -/
def here : List Char := ['.']

/-- The name of the directory above. -/
def above : List Char := ['.', '.']

/-- Whether a part between slashes leads anywhere. -/
def isName (part : List Char) : Bool := part != [] && part != here

/-- The names of a path, in the order in which a walk follows them. -/
def names (path : String) : List String :=
  ((Text.splitAll '/' path.toList).filter isName).map String.ofList

/-- Whether a path can only lead to a directory, as it ends in a slash. -/
def isDirectoryOnly (path : String) : Bool :=
  ((Text.splitAll '/' path.toList).getLast?.map fun part => !isName part).getD false

/-- Drops the slashes and the idle dots at the end of a path that is given in reverse. -/
def dropIdle : List Char → List Char
  | ['/'] => ['/']
  | ['.', '/'] => ['/']
  | '/' :: rest => dropIdle rest
  | '.' :: '/' :: rest => dropIdle rest
  | path => path

/-- The path without the slashes and idle dots at its end. -/
def trimEnd (path : List Char) : List Char :=
  (dropIdle path.reverse).reverse

/-- The last name of a path. -/
def lastName (path : List Char) : List Char :=
  ((trimEnd path).reverse.takeWhile (· != '/')).reverse

/-- What stands in front of the last name of a path. -/
def beforeLastName (path : List Char) : List Char :=
  ((trimEnd path).reverse.dropWhile (· != '/')).reverse

/-- The directory that a path lies in, by its text.  The root and the empty path lie in none. -/
def parent? (path : String) : Option String :=
  if (lastName path.toList).isEmpty then none
  else some (String.ofList (trimEnd (beforeLastName path.toList)))

/-- The part of a name in front of its last dot.  A dot at the start counts as part of the name. -/
def stem (name : List Char) : List Char :=
  let front := (name.reverse.dropWhile (· != '.')).tail.reverse
  if front.isEmpty then name else front

/-- The path with another extension.  A path that ends in no name of its own stays as it is. -/
def withExtension (extension path : String) : String :=
  let name := lastName path.toList
  if isName name && name != above then
    String.ofList (beforeLastName path.toList ++ stem name ++ '.' :: extension.toList)
  else
    path

end ProbeWatch.Path
