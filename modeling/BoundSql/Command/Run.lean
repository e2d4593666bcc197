import BoundSql.Command.Arguments
import BoundSql.Command.Failure
import BoundSql.Document.Notes
import BoundSql.Settings.Store
import BoundSql.Text.Grid

/-! The commands, each as what it asks of a machine. A command that fails prints nothing. -/
namespace BoundSql

variable {m : Type → Type} [Monad m]

/-- A machine on which notes become lines of the error output, as far as a command asks for
them. -/
def Machine.reporting (machine : Machine m) (c : Command) : Machine m :=
  { machine with
    note := fun note =>
      if note.level.rank ≤ c.detail.rank then
        machine.warn (if c.json then note.jsonLine else note.plainLine c.colored)
      else pure () }

namespace Command

/-- The arguments of a statement as a grid of their numbers, kinds and literals. -/
def argumentGrid (args : List Value) : Text.Grid where
  title := Text.ofNat args.length ++ " arguments"
  rows := ["#", "type", "value"] ::
    args.mapIdx fun i v => [Text.ofNat (i + 1), v.kind, v.literal]

/-- A statement of several for people: its number unless it is the only one, its text, and its
arguments if it has some. -/
def statementText (colored : Bool) (total index : Nat) (s : Statement) : String :=
  let number :=
    "-- statement " ++ Text.ofNat (index + 1) ++ " of " ++ Text.ofNat total
  (if 1 < total then Color.cyan.paint colored number ++ "\n" else "") ++
    Color.green.paint colored s.sql ++ ";\n" ++
    if s.args.isEmpty then "" else (argumentGrid s.args).render ++ "\n"

/-- Statements as text, for people or for programs. -/
def statementsText (c : Command) (statements : List Statement) : String :=
  if c.json then Json.pretty 0 (.list (statements.map Shape.ofStatement)) ++ "\n"
  else String.join (statements.mapIdx (statementText c.colored statements.length))

def literalText (c : Command) (texts : List String) : String :=
  if c.json then Json.pretty 0 (.list (texts.map .text)) ++ "\n"
  else String.join (texts.map (· ++ ";\n"))

def settingsText (c : Command) (s : Settings) : String :=
  if c.json then Json.pretty 0 (Shape.ofSettings s) ++ "\n" else s.annotated

/-- The path of the settings file: the one that the command gives, or the machine's. -/
def settingsPathOn (machine : Machine m) (c : Command) : m String := do
  match c.settingsPath with
  | none => Settings.pathOn machine
  | some path =>
    let path := Path.join (← machine.directory) path
    machine.note ⟨.debug, "using configuration at " ++ path, []⟩
    return path

/-- Reads a document from a file, or in JSON from the standard input if the file is a dash. -/
def readDocument (machine : Machine m) (file : String) : m (Except Failure Document) := do
  let (content, format, action) ←
    if file = "-" then
      pure (← machine.input, Format.json, "reading query document from stdin")
    else pure (← machine.read file, Format.ofPath file, "reading " ++ file)
  match content with
  | .error _ => return .error (.inaccessible action)
  | .ok text =>
    match Document.read? format text with
    | none => return .error (.malformed format)
    | some document => return .ok document

def printStatements (machine : Machine m) (c : Command) (options : Options) (d : Document) :
    m (Except Failure Unit) := do
  match d.compile options with
  | .error fault => return .error (.query fault)
  | .ok statements =>
    (d.notes statements).forM machine.note
    machine.print (c.statementsText statements)
    return .ok ()

/-- Prints the statements of an insertion with their values in them, with a warning to people. -/
def printLiterals (machine : Machine m) (c : Command) (options : Options) (d : Document) :
    m (Except Failure Unit) := do
  match d with
  | .insert i =>
    match i.compileLiteral options with
    | .error fault => return .error (.query fault)
    | .ok texts =>
      if !c.json then
        machine.note ⟨.info, Color.yellow.paint c.colored
          "-- literal rendering, do not execute untrusted values", []⟩
      machine.print (c.literalText texts)
      return .ok ()
  | d => return .error (.notInsertion d.kind)

/-- Compiles the document of a file, under the limits of settings or a number of rows instead. -/
def compileFile (machine : Machine m) (c : Command) (settings : Settings) (file : String)
    (raw : Bool) (batchSize : Option UInt64) : m (Except Failure Unit) := do
  let limits := settings.options
  let options := { limits with maxBatchRows := batchSize.getD limits.maxBatchRows }
  match ← readDocument machine file with
  | .error failure => return .error failure
  | .ok d =>
    machine.note ⟨.debug, "compiling document",
      [("kind", .text d.kind), ("max_batch_rows", .number options.maxBatchRows.toNat)]⟩
    if raw then printLiterals machine c options d else printStatements machine c options d

/-- Writes the default settings to a path, over what is there only if forced. -/
def writeDefaults (machine : Machine m) (path : String) (force : Bool) :
    m (Except Failure Unit) := do
  if (← machine.contains path) && !force then return .error (.settingsExist path)
  return (← Settings.default.save machine path).mapError .settings

def run (machine : Machine m) (c : Command) : m (Except Failure Unit) := do
  let machine := machine.reporting c
  let path ← settingsPathOn machine c
  match c.task with
  | .writeSettings force => writeDefaults machine path force
  | .compile file raw batchSize =>
    match ← Settings.load machine path with
    | .error fault => return .error (.settings fault)
    | .ok settings => compileFile machine c settings file raw batchSize
  | .showSettings =>
    match ← Settings.load machine path with
    | .error fault => return .error (.settings fault)
    | .ok settings =>
      machine.print (c.settingsText settings)
      return .ok ()

end Command
end BoundSql
