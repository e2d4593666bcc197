import BoundSql.Options
import BoundSql.Text.Blank
import BoundSql.Text.Digits
import BoundSql.Text.Split

/-! The settings that a user can give in a file, each of which may be left unset. -/
namespace BoundSql

structure Settings where
  maxBatchRows : Option UInt64 := none
  pageSize : Option UInt64 := none
deriving DecidableEq

namespace Settings

inductive Key where
  | maxBatchRows
  | pageSize
deriving DecidableEq

def Key.name : Key → String
  | maxBatchRows => "max_batch_rows"
  | pageSize => "default_page_size"

/-- Why zero is no value for a setting. -/
def Key.zeroReason : Key → String
  | maxBatchRows => "a batch must hold at least one row"
  | pageSize => "a page must hold at least one row"

/-- What a setting does, in the lines of a comment. -/
def Key.description : Key → List String
  | maxBatchRows =>
    ["Maximum number of rows compiled into a single INSERT statement.", "Default: 100"]
  | pageSize => ["LIMIT used when a query sets an OFFSET but no LIMIT.", "Default: 20"]

inductive Fault where
  | zero (key : Key)
  /-- The file does not hold settings. -/
  | malformed
  /-- The file cannot be read or written. -/
  | inaccessible
deriving DecidableEq

/-- The wording of a fault, where it does not depend on the machine. -/
def Fault.message? : Fault → Option String
  | zero key => some ("Invalid value for `" ++ key.name ++ "`: " ++ key.zeroReason)
  | _ => none

/-- The settings that hold when nobody has given any. -/
def default : Settings := ⟨some defaultBatchRows, some defaultPageRows⟩

/-- The settings with defaults for those that are unset. Zero is no value for any of them. -/
def resolve (s : Settings) : Except Fault Settings :=
  if s.maxBatchRows = some 0 then .error (.zero .maxBatchRows)
  else if s.pageSize = some 0 then .error (.zero .pageSize)
  else .ok ⟨some (s.maxBatchRows.getD defaultBatchRows), some (s.pageSize.getD defaultPageRows)⟩

/-- Resolves settings where they stand. Both are looked at before either of them is filled in. -/
def resolveInPlace : ExceptT Fault (StateM Settings) Unit := do
  if (← get).maxBatchRows = some 0 then throw (.zero .maxBatchRows)
  if (← get).pageSize = some 0 then throw (.zero .pageSize)
  modify fun s => { s with maxBatchRows := some (s.maxBatchRows.getD defaultBatchRows) }
  modify fun s => { s with pageSize := some (s.pageSize.getD defaultPageRows) }

def options (s : Settings) : Options :=
  ⟨s.maxBatchRows.getD defaultBatchRows, s.pageSize.getD defaultPageRows⟩

/-- The settings that are set, in their order. -/
def given (s : Settings) : List (Key × UInt64) :=
  (s.maxBatchRows.map (Key.maxBatchRows, ·)).toList ++ (s.pageSize.map (Key.pageSize, ·)).toList

/-- The settings that are set, as TOML with a line for each. -/
def written (s : Settings) : String :=
  String.join (s.given.map fun (key, n) => key.name ++ " = " ++ Text.ofNat n.toNat ++ "\n")

/-- What the settings are, in the lines of a comment. -/
def description : List String := ["Query compiler configuration"]

def comment (lines : List String) : String :=
  String.join (lines.map fun line => "# " ++ line ++ "\n")

/-- The setting of a name. -/
def Key.ofName? (name : String) : Option Key :=
  [maxBatchRows, pageSize].find? (·.name = name)

/-- A line of a file, under a comment on the setting that is named in front of its equals sign. -/
def annotatedLine (line : String) : String :=
  let name := Text.trim (String.ofList (Text.pieces '=' line.toList).1)
  let about := ((Key.ofName? name).map Key.description).getD []
  comment about ++ line ++ "\n"

/-- The settings as the text of a file, with comments on those that are set. -/
def annotated (s : Settings) : String :=
  comment description ++ "\n" ++ String.join ((Text.lines s.written).map annotatedLine)

end Settings
end BoundSql
