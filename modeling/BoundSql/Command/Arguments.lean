import BoundSql.Log
import BoundSql.Text.Digits

/-! The arguments of the program. Those before the name of a command and those after it are read
one level after the other, each from left to right. -/
namespace BoundSql

/-- An option, by what it is about. -/
inductive Flag where
  | verbose
  | quiet
  | json
  | noColor
  | settings
  | raw
  | batchSize
  | force
  | help
  | version
deriving DecidableEq

namespace Flag

def long : Flag → String
  | verbose => "verbose"
  | quiet => "quiet"
  | json => "json"
  | noColor => "no-color"
  | settings => "config"
  | raw => "raw"
  | batchSize => "batch-size"
  | force => "force"
  | help => "help"
  | version => "version"

def short? : Flag → Option Char
  | verbose => some 'v'
  | quiet => some 'q'
  | json => some 'j'
  | settings => some 'c'
  | batchSize => some 'b'
  | force => some 'f'
  | help => some 'h'
  | version => some 'V'
  | noColor | raw => none

def takesValue (f : Flag) : Bool := f = settings || f = batchSize

/-- The options that may be given before and after the name of a command. -/
def shared : List Flag := [verbose, quiet, json, noColor, settings, help]

end Flag

/-- A number of rows, with a plus sign or none. -/
def batchSize? (s : String) : Option UInt64 :=
  let digits := match s.toList with
    | '+' :: rest => rest
    | cs => cs
  (Text.nat? digits).bind fun n => if n < UInt64.size then some (UInt64.ofNat n) else none

/-- Why there is nothing to be done for some arguments. -/
inductive Interruption where
  | help
  | version
  /-- The arguments do not fit the program. -/
  | usage
deriving DecidableEq

/-- One level of arguments: its options, and the most words that it takes beside them. Without a
number the first word ends the level. -/
structure ArgumentLevel where
  flags : List Flag
  words : Option Nat

/-- What the arguments of a level say: options with their values, and words. -/
structure Given where
  flags : List (Flag × String) := []
  words : List String := []

namespace Given

def has (g : Given) (f : Flag) : Bool := g.flags.any (·.1 = f)

def value? (g : Given) (f : Flag) : Option String := g.flags.lookup f

def count (g : Given) (f : Flag) : Nat := g.flags.countP (·.1 = f)

/-- One more option. Only the one for verbosity may be repeated, and a number of rows has to be
one. -/
def give (g : Given) (f : Flag) (value : String) : Except Interruption Given :=
  match f with
  | .help => .error .help
  | .version => .error .version
  | f =>
    if f ≠ .verbose ∧ g.has f then .error .usage
    else if f = .batchSize ∧ batchSize? value = none then .error .usage
    else .ok { g with flags := g.flags ++ [(f, value)] }

def addWord (g : Given) (limit : Nat) (word : String) : Except Interruption Given :=
  if g.words.length < limit then .ok { g with words := g.words ++ [word] } else .error .usage

def addWords (g : Given) (limit : Nat) : List String → Except Interruption Given
  | [] => .ok g
  | word :: rest => do
    let g ← g.addWord limit word
    g.addWords limit rest

/-- Takes an option's name after two dashes, with a value after an equals sign or none. The second
result is the option that waits for its value. -/
def long (flags : List Flag) (g : Given) (cs : List Char) :
    Except Interruption (Given × Option Flag) :=
  let name := String.ofList (cs.takeWhile (· != '='))
  match flags.find? (·.long = name), cs.dropWhile (· != '=') with
  | none, _ => .error .usage
  | some f, [] => if f.takesValue then .ok (g, some f) else do return (← g.give f "", none)
  | some f, _ :: value =>
    if f.takesValue then do return (← g.give f (String.ofList value), none) else .error .usage

/-- The value of an option right after its letter, where an equals sign is no part of it. -/
def attached : List Char → String
  | '=' :: value => String.ofList value
  | value => String.ofList value

/-- Takes the letters of options after one dash. What follows an option with a value is its
value. The second result is the option that waits for its value. -/
def letters (flags : List Flag) (g : Given) : List Char → Except Interruption (Given × Option Flag)
  | [] => .ok (g, none)
  | c :: rest =>
    match flags.find? (·.short? = some c) with
    | none => .error .usage
    | some f =>
      if !f.takesValue then do
        let g ← g.give f ""
        g.letters flags rest
      else if rest.isEmpty then .ok (g, some f)
      else do return (← g.give f (attached rest), none)

/-- Takes the arguments of a level, of which the first is the value of an option if one waits for
it. The second result is what follows the level. -/
def take (level : ArgumentLevel) (g : Given) (waiting : Option Flag) :
    List String → Except Interruption (Given × List String)
  | [] => if waiting.isSome then .error .usage else .ok (g, [])
  | arg :: rest =>
    match waiting, arg.toList with
    | some _, '-' :: _ :: _ => .error .usage
    | some f, _ => do
      let g ← g.give f arg
      g.take level none rest
    | none, ['-', '-'] => do
      let g ← g.addWords (level.words.getD 0) rest
      return (g, [])
    | none, '-' :: '-' :: name => do
      let (g, waiting) ← g.long level.flags name
      g.take level waiting rest
    | none, '-' :: c :: more => do
      let (g, waiting) ← g.letters level.flags (c :: more)
      g.take level waiting rest
    | none, _ =>
      match level.words with
      | none => .ok (g, arg :: rest)
      | some limit => do
        let g ← g.addWord limit arg
        g.take level none rest

end Given

/-- What the program is asked to do. -/
inductive Task where
  | compile (file : String) (raw : Bool) (batchSize : Option UInt64)
  | showSettings
  /-- To write the default settings, or also over others. -/
  | writeSettings (force : Bool)
deriving DecidableEq

/-- A task, and how the program goes about it. -/
structure Command where
  task : Task
  /-- The finest detail that notes may have. -/
  detail : Level
  json : Bool
  colored : Bool
  settingsPath : Option String
deriving DecidableEq

namespace Command

/-- The finest detail of notes: asking for quiet counts more than asking for details. -/
def detailOf (quiet : Bool) (verbosity : Nat) : Level :=
  if quiet then .error
  else match verbosity with
    | 0 => .info
    | 1 => .debug
    | _ => .trace

/-- A task under the shared options before and after its name. Where both places say something,
the later one counts. -/
def ofGiven (before after : Given) (task : Task) : Command :=
  let has (f : Flag) := before.has f || after.has f
  let verbosity := if after.has .verbose then after.count .verbose else before.count .verbose
  { task
    detail := detailOf (has .quiet) verbosity
    json := has .json
    colored := !has .noColor
    settingsPath := (after.value? .settings).or (before.value? .settings) }

def topLevel : ArgumentLevel := ⟨.version :: Flag.shared, none⟩

/-- The task of compiling for the arguments after its name, with what they say. -/
def compileTask (args : List String) : Except Interruption (Given × Task) := do
  let (after, _) ← Given.take ⟨.raw :: .batchSize :: Flag.shared, some 1⟩ {} none args
  match after.words with
  | [file] =>
    return (after, .compile file (after.has .raw) ((after.value? .batchSize).bind batchSize?))
  | _ => .error .usage

/-- The command that a name and the arguments after it stand for. -/
def ofName (before : Given) (name : String) (args : List String) : Except Interruption Command := do
  match name with
  | "compile" | "c" =>
    let (after, task) ← compileTask args
    return ofGiven before after task
  | "config" =>
    let (after, _) ← Given.take ⟨Flag.shared, some 0⟩ {} none args
    return ofGiven before after .showSettings
  | "defconfig" =>
    let (after, _) ← Given.take ⟨.force :: Flag.shared, some 0⟩ {} none args
    return ofGiven before after (.writeSettings (after.has .force))
  | "help" =>
    match args with
    | [] | ["compile"] | ["c"] | ["config"] | ["defconfig"] | ["help"] => throw .help
    | _ => throw .usage
  | _ => throw .usage

def parse (args : List String) : Except Interruption Command := do
  match ← Given.take topLevel {} none args with
  | (before, name :: rest) => ofName before name rest
  | (_, []) => throw .usage

end Command
end BoundSql
