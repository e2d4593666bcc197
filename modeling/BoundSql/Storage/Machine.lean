import BoundSql.Log
import BoundSql.Storage.Files

/-! What the program asks of the machine it runs on, and a machine that is a value. -/
namespace BoundSql

structure Machine (m : Type → Type) where
  /-- The value of an environment variable. -/
  environment? : String → m (Option String)
  /-- The directory that relative paths start from. -/
  directory : m String
  /-- All of the standard input. -/
  input : m (Except AccessFault String)
  read : String → m (Except AccessFault String)
  contains : String → m Bool
  write : String → String → m (Except AccessFault Unit)
  makeDirectories : String → m (Except AccessFault Unit)
  print : String → m Unit
  warn : String → m Unit
  note : Note → m Unit

/-- A machine as a value: its files, its environment, and what a program has put out on it. -/
structure World where
  files : Files := {}
  directory : Place := []
  environment : List (String × String) := []
  input : String := ""
  output : String := ""
  errors : String := ""

namespace World

def directoryPath (w : World) : String := "/" ++ "/".intercalate w.directory

/-- Changes the files, unless that fails. -/
def change (act : World → Except AccessFault Files) (w : World) : Except AccessFault Unit × World :=
  match act w with
  | .ok files => (.ok (), { w with files })
  | .error fault => (.error fault, w)

/-- The requests as functions on the value. Notes are lost. -/
def machine : Machine (StateM World) where
  environment? name := do return (← get).environment.lookup name
  directory := do return (← get).directoryPath
  input := do return .ok (← get).input
  read path := do
    let w ← get
    return w.files.read w.directory path
  contains path := do
    let w ← get
    return w.files.contains w.directory path
  write path content := modifyGet (change fun w => w.files.write w.directory path content)
  makeDirectories path := modifyGet fun w =>
    let (outcome, files) := w.files.makeDirectories w.directory path
    (outcome, { w with files })
  print text := modify fun w => { w with output := w.output ++ text }
  warn text := modify fun w => { w with errors := w.errors ++ text }
  note _ := pure ()

end World
end BoundSql
