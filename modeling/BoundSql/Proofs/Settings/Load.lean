import BoundSql.Proofs.Outcome
import BoundSql.Settings.Store

/-! Settings that are resolved or loaded, and the two limits they come down to. -/
namespace BoundSql
open Outcome

namespace Settings

/-- The limits that settings give, if they name no zero. -/
def limits (s : Settings) : Except Fault Options :=
  if s.maxBatchRows = some 0 then .error (.zero .maxBatchRows)
  else if s.pageSize = some 0 then .error (.zero .pageSize)
  else .ok ⟨s.maxBatchRows.getD 100, s.pageSize.getD 20⟩

theorem limits_of_set (rows page : UInt64) :
    limits ⟨some rows, some page⟩ =
      if rows = 0 then .error (.zero .maxBatchRows)
      else if page = 0 then .error (.zero .pageSize)
      else .ok ⟨rows, page⟩ := by
  simp only [limits, Option.some.injEq, Option.getD_some]

/-- The limits that a file gives, by what comes of reading it. -/
def fileLimits : Except AccessFault String → Except Fault Options
  | .error .missing => .ok ⟨100, 20⟩
  | .error .other => .error .inaccessible
  | .ok text =>
    match ofText? text with
    | some settings => settings.limits
    | none => .error .malformed

/-- Settings that hold two limits, both of them set and none of them zero. -/
structure Holds (s : Settings) (limits : Options) : Prop where
  set : s = ⟨some limits.maxBatchRows, some limits.pageSize⟩
  rows : 0 < limits.maxBatchRows
  page : 0 < limits.pageSize

theorem holds_default : Holds default ⟨100, 20⟩ := ⟨rfl, by decide, by decide⟩

theorem Holds.options {s : Settings} {limits : Options} (h : Holds s limits) :
    s.options = limits := by
  rw [h.set]
  rfl

theorem getD_pos {given : Option UInt64} {fallback : UInt64} (nonzero : given ≠ some 0)
    (positive : 0 < fallback) : 0 < given.getD fallback := by
  cases given with
  | none => exact positive
  | some n =>
      apply UInt64.pos_iff_ne_zero.mpr
      rintro rfl
      exact nonzero rfl

theorem resolve_holds (s : Settings) : Agree Holds s.resolve s.limits := by
  unfold resolve limits
  split
  · exact .error _
  · rename_i rows
    split
    · exact .error _
    · rename_i page
      exact .ok ⟨rfl, getD_pos rows (by decide), getD_pos page (by decide)⟩

/-- The settings of a file, by what comes of reading it. -/
def ofFile : Except AccessFault String → Except Fault Settings
  | .error .missing => .ok default
  | .error .other => .error .inaccessible
  | .ok text =>
    match ofText? text with
    | some settings => settings.resolve
    | none => .error .malformed

theorem load_world (path : String) (w : World) :
    (load World.machine path).run w = (ofFile (w.files.read w.directory path), w) := by
  have reads : (World.machine.read path).run w = (w.files.read w.directory path, w) := rfl
  unfold load
  rw [StateT.run_bind, reads]
  rcases w.files.read w.directory path with (_ | _) | text
  · rfl
  · rfl
  · cases parsed : ofText? text <;>
      simp only [ofFile, parsed, bind, StateT.run, StateT.bind] <;>
      rfl

theorem ofFile_holds (found : Except AccessFault String) :
    Agree Holds (ofFile found) (fileLimits found) := by
  rcases found with (_ | _) | text
  · exact .ok holds_default
  · exact .error _
  · simp only [ofFile, fileLimits]
    cases ofText? text with
    | none => exact .error _
    | some settings => exact settings.resolve_holds

end Settings
end BoundSql
