import BoundSql.Change.Insert
import BoundSql.Settings.Store

/-! The settings of a running program. They are the defaults until a file is loaded or one of them
is changed, and what fails leaves them as they are. -/
namespace BoundSql

/-- The settings of a program, once it has read or given any, and the path of their file. -/
structure Session where
  loaded : Option Settings := none
  path : String

namespace Session

/-- The settings in force. -/
def settings (s : Session) : Settings := s.loaded.getD .default

/-- The session after the settings have been read. -/
def filled (s : Session) : Session := { s with loaded := some s.settings }

/-- The limits in force. -/
def options (s : Session) : Options := s.settings.options

/-- Changes the settings in force. Settings with a fault do not come into force. -/
def change (f : Settings → Settings) (s : Session) : Except Settings.Fault Session := do
  return { s with loaded := some (← (f s.settings).resolve) }

def setMaxBatchRows (n : UInt64) : Session → Except Settings.Fault Session :=
  change fun settings => { settings with maxBatchRows := some n }

def setPageSize (n : UInt64) : Session → Except Settings.Fault Session :=
  change fun settings => { settings with pageSize := some n }

variable {m : Type → Type} [Monad m]

/-- Loads the settings of the file and puts them into force. -/
def load (machine : Machine m) (s : Session) : m (Except Settings.Fault Session) := do
  let loaded ← Settings.load machine s.path
  return loaded.map fun settings => { s with loaded := some settings }

/-- The statements of an insertion under the limits in force, where it has none of its own. -/
def insert (s : Session) (i : Insert) : Except Fault (List Statement) := i.compile s.options

/-- What can be asked of a session. -/
inductive Request where
  | settings
  | options
  | setMaxBatchRows (n : UInt64)
  | setPageSize (n : UInt64)
  | setPath (path : String)
  | load
  | insert (i : Insert)

inductive Answer where
  | settings (settings : Settings)
  | options (options : Options)
  | done
  | failed (fault : Settings.Fault)
  | inserted (outcome : Except Fault (List Statement))

/-- Goes on with a changed session, or else with the same one. -/
def settle (s : Session) : Except Settings.Fault Session → Answer × Session
  | .ok next => (.done, next)
  | .error fault => (.failed fault, s)

/-- An insertion reads the settings when it comes to cut its rows, unless it has its own limit. -/
def inserted (s : Session) (i : Insert) : Answer × Session :=
  match s.insert i with
  | .ok statements => (.inserted (.ok statements), if i.maxRows.isSome then s else s.filled)
  | .error fault => (.inserted (.error fault), s)

/-- Answers a request, and goes on with the session that it leaves. -/
def serve (machine : Machine m) (s : Session) : Request → m (Answer × Session)
  | .settings => return (.settings s.settings, s.filled)
  | .options => return (.options s.options, s.filled)
  | .setMaxBatchRows n => return s.settle (s.setMaxBatchRows n)
  | .setPageSize n => return s.settle (s.setPageSize n)
  | .setPath path => return (.done, { s with path })
  | .load => return s.settle (← s.load machine)
  | .insert i => return s.inserted i

end Session
end BoundSql
