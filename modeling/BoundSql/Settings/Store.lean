import BoundSql.Data.Toml.Reader
import BoundSql.Shape.Settings
import BoundSql.Storage.Machine

/-! Settings kept in a file. -/
namespace BoundSql.Settings

variable {m : Type → Type} [Monad m]

def ofText? (text : String) : Option Settings :=
  (Toml.read? text).bind (Shape.settings? .toml)

/-- The settings of a file, all of them set. A missing file stands for the defaults. -/
def load (machine : Machine m) (path : String) : m (Except Fault Settings) := do
  match ← machine.read path with
  | .ok text =>
    machine.note ⟨.debug, "loading configuration from " ++ path, []⟩
    match ofText? text with
    | some settings => return settings.resolve
    | none => return .error .malformed
  | .error .missing =>
    machine.note ⟨.debug, "no configuration at " ++ path ++ ", using defaults", []⟩
    return default.resolve
  | .error .other => return .error .inaccessible

/-- Writes settings to a file as they are, and makes the directories to it. -/
def save (machine : Machine m) (s : Settings) (path : String) : m (Except Fault Unit) := do
  let made ← match Path.parent? path with
    | some parent => machine.makeDirectories parent
    | none => pure (.ok ())
  match made with
  | .error _ => return .error .inaccessible
  | .ok () =>
    match ← machine.write path s.annotated with
    | .error _ => return .error .inaccessible
    | .ok () =>
      machine.note ⟨.info, "Configuration saved to " ++ path, []⟩
      return .ok ()

/-- The path of the settings file: a variable gives it, or another one the directory of all
configuration, or it lies in the home directory. -/
def defaultPath (file configHome home : Option String) : String :=
  match file with
  | some path => path
  | none =>
    let directory := match configHome.filter (· ≠ "") with
      | some directory => directory
      | none =>
        match home with
        | some home => Path.join home ".config"
        | none => ".config"
    Path.join (Path.join directory "strata") "config.toml"

def pathOn (machine : Machine m) : m String := do
  let file ← machine.environment? "STRATA_CONFIG"
  let configHome ← machine.environment? "XDG_CONFIG_HOME"
  let home ← machine.environment? "HOME"
  return defaultPath file configHome home

end BoundSql.Settings
