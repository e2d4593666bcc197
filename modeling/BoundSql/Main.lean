import BoundSql.Command.Program

/-! The command line, on the machine that it runs on. -/
namespace BoundSql

/-- A request as its result, or as the reason why it failed. -/
def accessed {α : Type} (action : IO α) : IO (Except AccessFault α) := do
  try
    return .ok (← action)
  catch
    | .noFileOrDirectory _ _ _ => return .error .missing
    | _ => return .error .other

def readAll (stream : IO.FS.Stream) : IO String := do
  let mut content := ByteArray.empty
  let mut block ← stream.read 65536
  while !block.isEmpty do
    content := content ++ block
    block ← stream.read 65536
  match String.fromUTF8? content with
  | some text => return text
  | none => throw (.userError "stream did not contain valid UTF-8")

def realMachine : Machine IO where
  environment? name := IO.getEnv name
  directory := do return (← IO.currentDir).toString
  input := do accessed (readAll (← IO.getStdin))
  read path := accessed (IO.FS.readFile path)
  contains path := do
    match ← accessed (IO.FS.realPath path) with
    | .ok _ => return true
    | .error _ => return false
  write path content := accessed (IO.FS.writeFile path content)
  makeDirectories path :=
    if path = "" then return .ok () else accessed (IO.FS.createDirAll path)
  print text := IO.print text
  warn text := IO.eprint text
  note _ := pure ()

end BoundSql

def main (args : List String) : IO UInt32 := do
  let ending ← BoundSql.Program.run BoundSql.realMachine args
  IO.eprint ending.text
  return ending.status.toUInt32
