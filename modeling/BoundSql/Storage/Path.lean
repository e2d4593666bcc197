import BoundSql.Text.Split

/-! Paths of files, as texts whose components are divided by slashes. -/
namespace BoundSql.Path

def isAbsolute (path : String) : Bool := path.toList.head? == some '/'

/-- A path taken from a directory. An absolute one stands for itself. -/
def join (directory path : String) : String :=
  if isAbsolute path then path
  else if directory = "" || directory.toList.getLast? = some '/' then directory ++ path
  else directory ++ "/" ++ path

/-- The names in a path, in order. What is empty between slashes is no name. -/
def names (path : String) : List String :=
  (Text.split '/' path).filter (· ≠ "")

/-- The components of a path: its names, without single dots except for one at the start of a
relative path. -/
def components (path : String) : List String :=
  match names path with
  | [] => []
  | first :: rest =>
    let rest := rest.filter (· ≠ ".")
    if first = "." && isAbsolute path then rest else first :: rest

/-- The directory in which the last component of a path lies, if there is a component. -/
def parent? (path : String) : Option String :=
  match components path with
  | [] => none
  | found => some ((if isAbsolute path then "/" else "") ++ "/".intercalate found.dropLast)

/-- The name of the file that a path leads to. -/
def fileName? (path : String) : Option String :=
  (components path).getLast?.filter fun name => name ≠ ".." && name ≠ "."

/-- What follows the last dot of a file's name, unless the dot is its first character. -/
def extension? (path : String) : Option String := do
  let name ← fileName? path
  let back := name.toList.reverse
  match back.dropWhile (· != '.') with
  | _ :: _ :: _ => return String.ofList (back.takeWhile (· != '.')).reverse
  | _ => none

end BoundSql.Path
