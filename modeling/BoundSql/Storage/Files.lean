import BoundSql.Storage.Path

/-! Files and directories as a value, and what becomes of them when they are read and written. -/
namespace BoundSql

/-- What lies at a place. -/
inductive Entry where
  | directory
  | file (content : String)
deriving DecidableEq

/-- A place, by the names that lead to it from the root. -/
abbrev Place := List String

/-- Files and directories at their places. The root is always a directory. -/
structure Files where
  entries : List (Place × Entry) := []

inductive AccessFault where
  | missing
  | other
deriving DecidableEq

namespace Files

def find? (files : Files) (place : Place) : Option Entry :=
  if place.isEmpty then some .directory else files.entries.lookup place

/-- Puts something at a place, instead of what was there. -/
def put (files : Files) (place : Place) (entry : Entry) : Files :=
  if files.entries.any (·.1 = place) then
    ⟨files.entries.map fun e => if e.1 = place then (place, entry) else e⟩
  else ⟨files.entries ++ [(place, entry)]⟩

/-- The most bytes that a name may have. -/
def nameLimit : Nat := 255

/-- The place that a name leads to from a directory. There may be nothing at it. -/
def follow (place : Place) (name : String) : Except AccessFault Place :=
  if name = "." then .ok place
  else if name = ".." then .ok place.dropLast
  else if nameLimit < name.utf8ByteSize then .error .other
  else .ok (place ++ [name])

/-- The place that names lead to, each of them from a directory. A name is not looked at until the
directory that it is looked up in is there. -/
def walk (files : Files) (place : Place) : List String → Except AccessFault Place
  | [] => .ok place
  | name :: rest =>
    match files.find? place with
    | some .directory => do files.walk (← follow place name) rest
    | some (.file _) => .error .other
    | none => .error .missing

/-- The most bytes that a path may have. -/
def pathLimit : Nat := 4095

/-- The names that a path is followed by. A slash at the end asks for a directory. -/
def steps (path : String) : Except AccessFault (List String) :=
  let names := Path.names path
  if path = "" then .error .missing
  else if path.toList.contains '\x00' || pathLimit < path.utf8ByteSize then .error .other
  else .ok (if path.toList.getLast? = some '/' then names ++ ["."] else names)

/-- The place of a path, which starts at the root or else at the given directory. -/
def locate (files : Files) (directory : Place) (path : String) : Except AccessFault Place := do
  let names ← steps path
  files.walk (if Path.isAbsolute path then [] else directory) names

def read (files : Files) (directory : Place) (path : String) : Except AccessFault String := do
  let place ← files.locate directory path
  match files.find? place with
  | some (.file content) => return content
  | some .directory => throw .other
  | none => throw .missing

def contains (files : Files) (directory : Place) (path : String) : Bool :=
  match files.locate directory path with
  | .ok place => (files.find? place).isSome
  | .error _ => false

/-- Writes a file, which is made if it is missing. -/
def write (files : Files) (directory : Place) (path content : String) :
    Except AccessFault Files := do
  let place ← files.locate directory path
  match files.find? place with
  | some .directory => throw .other
  | _ => return files.put place (.file content)

/-- Makes the directory at a place if it is missing. -/
def makeDirectory (files : Files) (place : Place) : Except AccessFault Files :=
  match files.find? place with
  | some .directory => .ok files
  | some (.file _) => .error .other
  | none => .ok (files.put place .directory)

/-- Goes on to the directory that a name leads to, which is made if it is missing. -/
def enter (files : Files) (place : Place) (name : String) : Except AccessFault (Place × Files) := do
  let next ← files.walk place [name]
  return (next, ← files.makeDirectory next)

/-- Makes all directories that are missing on the way along names. Those that are made stay, also
where the way ends early. -/
def makeAlong (files : Files) (place : Place) : List String → Except AccessFault Unit × Files
  | [] => (.ok (), files)
  | name :: rest =>
    match files.enter place name with
    | .error fault => (.error fault, files)
    | .ok (next, made) => made.makeAlong next rest

/-- Makes the directory of a path, and those on the way. An empty path needs none. -/
def makeDirectories (files : Files) (directory : Place) (path : String) :
    Except AccessFault Unit × Files :=
  if path = "" then (.ok (), files)
  else
    match steps path with
    | .error fault => (.error fault, files)
    | .ok names => files.makeAlong (if Path.isAbsolute path then [] else directory) names

end Files
end BoundSql
