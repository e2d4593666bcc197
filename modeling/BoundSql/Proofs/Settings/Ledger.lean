import BoundSql.Proofs.Settings.Load
import BoundSql.Settings.Session

/-! A session as two limits and a path, over any run of requests. -/
namespace BoundSql
open Outcome

/-- The statements of an insertion, with so many rows in each but the last. -/
def Insert.batches (i : Insert) (size : Nat) : Except Fault (List Statement) := do
  let aligned ← Aligned.ofRows i.rows
  let conflict ← i.conflictClause
  return (chunks size aligned.values).map (batchStatement aligned conflict)

namespace Session

/-- What a session comes down to. -/
structure Ledger where
  limits : Options
  path : String

namespace Ledger

/-- The ledger after a request, if the request can be met, by what the file holds then. -/
def change (found : Except AccessFault String) (l : Ledger) :
    Request → Except Settings.Fault Ledger
  | .setMaxBatchRows n =>
    if n = 0 then .error (.zero .maxBatchRows)
    else .ok { l with limits := { l.limits with maxBatchRows := n } }
  | .setPageSize n =>
    if n = 0 then .error (.zero .pageSize)
    else .ok { l with limits := { l.limits with pageSize := n } }
  | .load => (Settings.fileLimits found).map fun limits => { l with limits }
  | .setPath path => .ok { l with path }
  | .settings | .options | .insert _ => .ok l

def next (found : Except AccessFault String) (l : Ledger) (request : Request) : Ledger :=
  (l.change found request).toOption.getD l

/-- The rows of one statement: the limit in force, unless the insertion has its own. -/
def batchSize (l : Ledger) (i : Insert) : Nat :=
  match i.maxRows with
  | none => l.limits.maxBatchRows.toNat
  | some own => max own.toNat 1

def settled : Except Settings.Fault Ledger → Answer
  | .ok _ => .done
  | .error fault => .failed fault

/-- The answer to a request under the limits in force. -/
def answer (found : Except AccessFault String) (l : Ledger) (request : Request) : Answer :=
  match request with
  | .settings => .settings ⟨some l.limits.maxBatchRows, some l.limits.pageSize⟩
  | .options => .options l.limits
  | .insert i => .inserted (i.batches (l.batchSize i))
  | .setMaxBatchRows _ | .setPageSize _ | .setPath _ | .load =>
    settled (l.change found request)

/-- The answers to requests and the ledger after each, where a request comes with the machine as it
is then. -/
def run (l : Ledger) : List (World × Request) → List (Answer × Ledger)
  | [] => []
  | (w, request) :: rest =>
    let found := w.files.read w.directory l.path
    (l.answer found request, l.next found request) :: run (l.next found request) rest

end Ledger

def run (s : Session) : List (World × Request) → List (Answer × Session)
  | [] => []
  | (w, request) :: rest =>
    let served := ((serve World.machine s request).run w).1
    served :: run served.2 rest

/-- A session that comes down to a ledger. -/
structure Follows (s : Session) (l : Ledger) : Prop where
  settings : s.settings.Holds l.limits
  path : s.path = l.path

variable {s : Session} {l : Ledger}

theorem Follows.filled (h : Follows s l) : Follows s.filled l := ⟨h.settings, h.path⟩

theorem change_follows (h : Follows s l) (f : Settings → Settings) :
    Agree Follows (s.change f) ((f s.settings).limits.map fun limits => { l with limits }) :=
  (Settings.resolve_holds _).map fun _ _ holds => ⟨holds, h.path⟩

theorem setMaxBatchRows_follows (h : Follows s l) (found : Except AccessFault String) (n : UInt64) :
    Agree Follows (s.setMaxBatchRows n) (l.change found (.setMaxBatchRows n)) := by
  have page : l.limits.pageSize ≠ 0 := UInt64.pos_iff_ne_zero.mp h.settings.page
  have agree := change_follows h fun settings => { settings with maxBatchRows := some n }
  rw [h.settings.set, Settings.limits_of_set, if_neg page] at agree
  rw [Ledger.change]
  split_ifs at agree ⊢ <;> exact agree

theorem setPageSize_follows (h : Follows s l) (found : Except AccessFault String) (n : UInt64) :
    Agree Follows (s.setPageSize n) (l.change found (.setPageSize n)) := by
  have rows : l.limits.maxBatchRows ≠ 0 := UInt64.pos_iff_ne_zero.mp h.settings.rows
  have agree := change_follows h fun settings => { settings with pageSize := some n }
  rw [h.settings.set, Settings.limits_of_set, if_neg rows] at agree
  rw [Ledger.change]
  split_ifs at agree ⊢ <;> exact agree

theorem load_follows (h : Follows s l) (w : World) :
    ∃ loaded, (s.load World.machine).run w = (loaded, w) ∧
      Agree Follows loaded (l.change (w.files.read w.directory l.path) .load) := by
  have loads := Settings.load_world s.path w
  rw [h.path] at loads
  refine ⟨(Settings.ofFile (w.files.read w.directory l.path)).map fun settings =>
    { s with loaded := some settings }, ?_, ?_⟩
  · unfold load
    rw [StateT.run_bind, h.path, loads]
    rfl
  · exact (Settings.ofFile_holds _).map fun _ _ holds => ⟨holds, h.path⟩

theorem settle_follows (h : Follows s l) {outcome : Except Settings.Fault Session}
    {change : Except Settings.Fault Ledger} (agree : Agree Follows outcome change) :
    Follows (s.settle outcome).2 (change.toOption.getD l) ∧
      (s.settle outcome).1 = Ledger.settled change := by
  cases agree with
  | error fault => exact ⟨h, rfl⟩
  | ok follows => exact ⟨follows, rfl⟩

theorem batchSize_follows (h : Follows s l) (i : Insert) :
    i.batchSize s.options = l.batchSize i := by
  have positive : 1 ≤ l.limits.maxBatchRows.toNat := UInt64.lt_iff_toNat_lt.mp h.settings.rows
  unfold Insert.batchSize options Ledger.batchSize
  rw [h.settings.options]
  cases i.maxRows with
  | none => exact Nat.max_eq_left positive
  | some own => rfl

theorem insert_batches (h : Follows s l) (i : Insert) :
    s.insert i = i.batches (l.batchSize i) := by
  rw [← batchSize_follows h]
  rfl

theorem inserted_follows (h : Follows s l) (i : Insert) :
    Follows (s.inserted i).2 l ∧ (s.inserted i).1 = .inserted (s.insert i) := by
  unfold inserted
  cases s.insert i with
  | error fault => exact ⟨h, rfl⟩
  | ok statements =>
      refine ⟨?_, rfl⟩
      cases i.maxRows with
      | none => exact h.filled
      | some own => exact h

/-- One request is answered from the ledger, and leaves the session as the ledger goes on. -/
theorem serve_follows (h : Follows s l) (w : World) (request : Request) :
    let found := w.files.read w.directory l.path
    ∃ next, (serve World.machine s request).run w = ((l.answer found request, next), w) ∧
      Follows next (l.next found request) := by
  intro found
  cases request with
  -- a read may fill the session, but with what was in force already
  | settings =>
      refine ⟨s.filled, ?_, h.filled⟩
      rw [Ledger.answer, ← h.settings.set]
      rfl
  | options =>
      refine ⟨s.filled, ?_, h.filled⟩
      rw [Ledger.answer, ← h.settings.options]
      rfl
  | setMaxBatchRows n =>
      obtain ⟨follows, answer⟩ := settle_follows h (setMaxBatchRows_follows h found n)
      exact ⟨_, Prod.ext (Prod.ext answer rfl) rfl, follows⟩
  | setPageSize n =>
      obtain ⟨follows, answer⟩ := settle_follows h (setPageSize_follows h found n)
      exact ⟨_, Prod.ext (Prod.ext answer rfl) rfl, follows⟩
  | setPath path => exact ⟨{ s with path }, rfl, h.settings, rfl⟩
  | load =>
      obtain ⟨loaded, loads, agree⟩ := load_follows h w
      obtain ⟨follows, answer⟩ := settle_follows h agree
      refine ⟨_, ?_, follows⟩
      rw [serve, StateT.run_bind, loads]
      exact Prod.ext (Prod.ext answer rfl) rfl
  | insert i =>
      obtain ⟨follows, answer⟩ := inserted_follows h i
      refine ⟨_, ?_, follows⟩
      rw [Ledger.answer, ← insert_batches h, ← answer]
      rfl

theorem run_follows (h : Follows s l) (history : List (World × Request)) :
    List.Forall₂ (fun served kept => served.1 = kept.1 ∧ Follows served.2 kept.2)
      (s.run history) (l.run history) := by
  induction history generalizing s l with
  | nil => exact .nil
  | cons entry rest ih =>
      obtain ⟨w, request⟩ := entry
      obtain ⟨next, served, follows⟩ := serve_follows h w request
      rw [run, Ledger.run, served]
      exact .cons ⟨rfl, follows⟩ (ih follows)

/-- From the start, whatever is asked and whatever its file holds at the time, a session answers as
two positive limits would that start at 100 and 20. -/
theorem run_ledger (path : String) (history : List (World × Request)) :
    List.Forall₂ (fun served kept => served.1 = kept.1 ∧ Follows served.2 kept.2)
      (run ⟨none, path⟩ history) (Ledger.run ⟨⟨100, 20⟩, path⟩ history) := by
  have start : Follows ⟨none, path⟩ ⟨⟨100, 20⟩, path⟩ := ⟨Settings.holds_default, rfl⟩
  exact run_follows start history

/-- A machine on which something lies at the path of the settings. -/
def worldWith (entry : Entry) : World := { files := ⟨[(["config.toml"], entry)]⟩ }

/-- Loads of a file that is valid, that holds a zero, that is ill typed, that cannot be read and
that is missing, with changes and reads between them. -/
def reloads : List (World × Request) :=
  [(worldWith (.file "max_batch_rows = 7\n"), .load), ({}, .settings),
    (worldWith (.file "max_batch_rows = 9\ndefault_page_size = 0\n"), .load),
    (worldWith (.file "max_batch_rows = \"9\"\n"), .load), (worldWith .directory, .load),
    ({}, .setMaxBatchRows 0), ({}, .setPageSize 5), ({}, .options), ({}, .load), ({}, .options),
    ({}, .setMaxBatchRows 1),
    ({}, .insert { rows := [⟨"users", [("id", .integer 1)]⟩, ⟨"users", [("id", .integer 2)]⟩] })]

/-- The first load leaves the page size open, and the next three leave everything as it is. -/
theorem run_ledger_reloads :
    (run ⟨none, "config.toml"⟩ reloads).map (·.1) =
      [.done, .settings ⟨some 7, some 20⟩, .failed (.zero .pageSize), .failed .malformed,
        .failed .inaccessible, .failed (.zero .maxBatchRows), .done, .options ⟨7, 5⟩, .done,
        .options ⟨100, 20⟩, .done, .inserted (.ok
          [⟨"INSERT INTO users (id) VALUES (?)", [.integer 1]⟩,
            ⟨"INSERT INTO users (id) VALUES (?)", [.integer 2]⟩])] := by
  have valid : Settings.ofText? "max_batch_rows = 7\n" = some ⟨some 7, none⟩ := by decide +kernel
  have zero : Settings.ofText? "max_batch_rows = 9\ndefault_page_size = 0\n" =
    some ⟨some 9, some 0⟩ := by decide +kernel
  have illTyped : Settings.ofText? "max_batch_rows = \"9\"\n" = none := by decide +kernel
  have answers : (run ⟨none, "config.toml"⟩ reloads).map (·.1) =
      (Ledger.run ⟨⟨100, 20⟩, "config.toml"⟩ reloads).map (·.1) := by
    rw [← List.forall₂_eq_eq_eq, List.forall₂_map_left_iff, List.forall₂_map_right_iff]
    exact (run_ledger "config.toml" reloads).imp fun _ _ both => both.1
  have found : ∀ text, (worldWith (.file text)).files.read [] "config.toml" = .ok text :=
    fun _ => by rfl
  have unreadable : (worldWith .directory).files.read [] "config.toml" = .error .other := by rfl
  have missing : ({} : World).files.read [] "config.toml" = .error .missing := by rfl
  have place : ∀ entry, (worldWith entry).directory = [] := fun _ => rfl
  have inserted : Insert.batches
      { rows := [⟨"users", [("id", .integer 1)]⟩, ⟨"users", [("id", .integer 2)]⟩] } 1 = .ok
        [⟨"INSERT INTO users (id) VALUES (?)", [.integer 1]⟩,
          ⟨"INSERT INTO users (id) VALUES (?)", [.integer 2]⟩] := by rfl
  rw [answers]
  simp [reloads, Ledger.run, Ledger.answer, Ledger.next, Ledger.change, Ledger.settled,
    Ledger.batchSize, place, found, unreadable, missing, Settings.fileLimits, valid, zero, illTyped,
    Settings.limits, inserted, Except.map, Except.toOption]

end Session
end BoundSql
