import BoundSql.Proofs.Command.Shown
import BoundSql.Proofs.Settings.Saved

/-! Writing the default settings. No other settings are lost by it unless it is forced, and what is
written cannot be told from settings that nobody has given. -/
namespace BoundSql
open Files Reports

/-- A program that gives an answer and leaves files, with any warnings. -/
def Leaves {α : Type} (act : StateM World α) (w : World) (left : α × Files) : Prop :=
  ∃ warned, act.run w = (left.1, ({ w with files := left.2 } : World).told "" warned)

theorem Leaves.after {α β : Type} {first : StateM World α} {next : α → StateM World β}
    {w : World} {answer : α} {left : β × Files} (reports : Reports first w answer "")
    (rest : ∀ warned, Leaves (next answer) (w.told "" warned) left) :
    Leaves (first >>= next) w left := by
  obtain ⟨warned, runs⟩ := reports
  obtain ⟨more, ends⟩ := rest warned
  refine ⟨warned ++ more, ?_⟩
  rw [StateT.run_bind, runs]
  exact ends.trans (Prod.ext rfl (World.told_told { w with files := left.2 } ..))

theorem Leaves.map {α β : Type} {act : StateM World α} {w : World} {left : α × Files}
    (leaves : Leaves act w left) (f : α → β) :
    Leaves (do return f (← act)) w (f left.1, left.2) := by
  obtain ⟨warned, runs⟩ := leaves
  refine ⟨warned, ?_⟩
  rw [StateT.run_bind, runs]
  rfl

namespace Settings

/-- Whatever notes are asked for, a save changes nothing but the files. -/
theorem save_leaves (c : Command) (s : Settings) (path : String) (w : World) :
    Leaves (s.save (World.machine.reporting c) path) w (s.savedTo w.files w.directory path) := by
  let machine := World.machine.reporting c
  have rest : ∀ made : Files, Leaves (finish machine s path (.ok ())) { w with files := made }
      (s.writeTo made w.directory path) := by
    intro made
    have writes : (machine.write path s.annotated).run { w with files := made } =
      World.change (fun w => w.files.write w.directory path s.annotated) { w with files := made } :=
        rfl
    rw [Leaves, finish, StateT.run_bind, writes, World.change, writeTo]
    dsimp only
    cases made.write w.directory path s.annotated with
    | error fault => exact silent (Except.error Fault.inaccessible) _
    | ok written => exact after (note c _ { w with files := written }) fun _ => silent _ _
  unfold Settings.save savedTo makeParent
  cases Path.parent? path with
  | none => exact rest w.files
  | some parent =>
      have makes : (machine.makeDirectories parent).run w =
        let made := w.files.makeDirectories w.directory parent
        (made.1, { w with files := made.2 }) := rfl
      change Leaves (machine.makeDirectories parent >>= finish machine s path) w _
      rw [Leaves, StateT.run_bind, makes]
      dsimp only
      obtain ⟨outcome, made⟩ := w.files.makeDirectories w.directory parent
      cases outcome with
      | error fault => exact silent (Except.error Fault.inaccessible) { w with files := made }
      | ok => exact rest made

end Settings

/-- What comes of writing the default settings to a path, and the files after that. -/
def defaultsTo (files : Files) (directory : Place) (path : String) (force : Bool) :
    Except Failure Unit × Files :=
  if files.contains directory path && !force then (.error (.settingsExist path), files)
  else
    let saved := Settings.default.savedTo files directory path
    (saved.1.mapError .settings, saved.2)

theorem writeDefaults_leaves (c : Command) (path : String) (force : Bool) (w : World) :
    Leaves (Command.writeDefaults (World.machine.reporting c) path force) w
      (defaultsTo w.files w.directory path force) := by
  unfold Command.writeDefaults defaultsTo
  refine Leaves.after (silent (w.files.contains w.directory path) w) fun warned => ?_
  split
  · exact silent (Except.error (Failure.settingsExist path)) _
  · exact (Settings.save_leaves c .default path _).map _

theorem run_defaults {c : Command} {force : Bool} (task : c.task = .writeSettings force)
    (w : World) :
    Leaves (c.run World.machine) w
      (defaultsTo w.files w.directory (c.settingsFile w) force) := by
  unfold Command.run
  refine Leaves.after (settingsPathOn_reports c w) fun warned => ?_
  rw [task]
  exact writeDefaults_leaves c (c.settingsFile w) force (w.told "" warned)

section Outcomes
variable {files : Files} {directory : Place} {path : String} {force : Bool} {other : Place}

/-- The settings that are there are kept, unless it is forced. -/
theorem defaultsTo_present (present : files.contains directory path = true) :
    defaultsTo files directory path false = (.error (.settingsExist path), files) := by
  rw [defaultsTo, present]
  rfl

theorem defaultsTo_allowed (allowed : force = true ∨ files.contains directory path = false) :
    defaultsTo files directory path force =
      ((Settings.default.savedTo files directory path).1.mapError .settings,
        (Settings.default.savedTo files directory path).2) := by
  unfold defaultsTo
  obtain rfl | absent := allowed
  · rw [Bool.not_true, Bool.and_false]
    rfl
  · rw [absent]
    rfl

theorem defaultsTo_open {absolute : Bool} {names : List String} {last : String}
    (allowed : force = true ∨
      files.contains directory (Path.ofNames absolute (names ++ [last])) = false)
    (plain : ∀ name ∈ names ++ [last], Path.IsName name)
    (short : (Path.ofNames absolute (names ++ [last])).utf8ByteSize ≤ pathLimit)
    (opens : Open files (origin absolute directory) names last) :
    (defaultsTo files directory (Path.ofNames absolute (names ++ [last])) force).1 = .ok () := by
  rw [defaultsTo_allowed allowed]
  dsimp only
  rw [Settings.savedTo_open plain short opens]
  rfl

/-- The ways in which it ends. Either way directories may have been made. -/
theorem defaultsTo_cases (files : Files) (directory : Place) (path : String) (force : Bool) :
    (∃ failure left, Grown files left ∧
        defaultsTo files directory path force = (.error failure, left)) ∨
      (force = true ∨ files.contains directory path = false) ∧
        ∃ made written, Grown files made ∧
          made.write directory path Settings.default.annotated = .ok written ∧
          defaultsTo files directory path force = (.ok (), written) := by
  by_cases refused : force = false ∧ files.contains directory path = true
  · obtain ⟨rfl, present⟩ := refused
    exact .inl ⟨_, files, Grown.refl files, defaultsTo_present present⟩
  · have allowed : force = true ∨ files.contains directory path = false := by
      cases force with
      | true => exact .inl rfl
      | false => exact .inr (Bool.eq_false_iff.mpr fun present => refused ⟨rfl, present⟩)
    rw [defaultsTo_allowed allowed]
    obtain ⟨made, grown, ends⟩ | ⟨made, written, grown, writes, ends⟩ :=
      Settings.default.savedTo_cases files directory path
    · rw [ends]
      exact .inl ⟨_, made, grown, rfl⟩
    · rw [ends]
      exact .inr ⟨allowed, made, written, grown, writes, rfl⟩

/-- Everything stays as it is but for new directories, and for the file where it is written. -/
theorem defaultsTo_kept (files : Files) (directory : Place) (path : String) (force : Bool)
    (other : Place) :
    let (outcome, left) := defaultsTo files directory path force
    left.find? other = files.find? other ∨
      (files.find? other = none ∧ left.find? other = some .directory) ∨
      (outcome = .ok () ∧ left.locate directory path = .ok other) := by
  obtain ⟨failure, left, grown, ends⟩ | ⟨-, made, written, grown, writes, ends⟩ :=
    defaultsTo_cases files directory path force
  · rw [ends]
    exact (grown other).imp_right .inl
  · rw [ends]
    obtain ⟨place, located, vacant, rfl⟩ := write_ok.mp writes
    by_cases here : other = place
    · exact .inr (.inr ⟨rfl, here ▸ locate_put located vacant _⟩)
    · dsimp only
      rw [find?_put (inside_of_vacant vacant), if_neg here]
      exact (grown other).imp_right .inl

theorem find?_absent (absent : files.contains directory path = false)
    (located : files.locate directory path = .ok other) : files.find? other = none := by
  rw [contains, located] at absent
  exact Option.not_isSome_iff_eq_none.mp (Bool.eq_false_iff.mp absent)

/-- What is there stays as it is, if it is not forced. -/
theorem defaultsTo_unforced {entry : Entry} (steady : Steady files directory path)
    (here : files.find? other = some entry) :
    (defaultsTo files directory path false).2.find? other = some entry := by
  have apart : files.find? other ≠ none := by
    rw [here]
    exact nofun
  obtain ⟨failure, left, grown, ends⟩ | ⟨unforced, made, written, grown, writes, ends⟩ :=
    defaultsTo_cases files directory path false
  · rw [ends, ← here]
    exact (grown other).resolve_right fun new => apart new.1
  · have absent := unforced.resolve_left Bool.false_ne_true
    rw [ends, ← here]
    obtain ⟨place, located, vacant, rfl⟩ := write_ok.mp writes
    have elsewhere : other ≠ place := by
      rintro rfl
      exact apart (find?_absent absent ((steady.locate grown located).resolve_right apart))
    dsimp only
    rw [find?_put (inside_of_vacant vacant), if_neg elsewhere]
    exact (grown other).resolve_right fun new => apart new.1

theorem read_defaultsTo (written : (defaultsTo files directory path force).1 = .ok ()) :
    (defaultsTo files directory path force).2.read directory path =
      .ok Settings.default.annotated := by
  obtain ⟨failure, left, -, ends⟩ | ⟨-, made, written, -, writes, ends⟩ :=
    defaultsTo_cases files directory path force
  · rw [ends] at written
    cases written
  · rw [ends]
    exact read_of_write writes

theorem status_after {outcome : Except Failure Unit} :
    (Ending.after outcome).status = 0 ↔ outcome = .ok () := by
  cases outcome with
  | ok => exact ⟨fun _ => rfl, fun _ => rfl⟩
  | error failure => exact ⟨nofun, nofun⟩

end Outcomes

section Unnoticed

/-- The text of settings begins with a comment. -/
theorem toList_annotated (s : Settings) : ∃ rest, s.annotated.toList = '#' :: rest := by
  rw [Settings.annotated, String.append_assoc, String.toList_append]
  exact ⟨_, rfl⟩

/-- The text of settings is no document: JSON has no comments, and in TOML the names of settings
are not those of documents. -/
theorem read?_settings (format : Format) (s : Settings) :
    Document.read? format s.annotated = none := by
  cases format with
  | json =>
      obtain ⟨rest, text⟩ := toList_annotated s
      have unread : Json.tokens? s.annotated = none := by
        rw [Json.tokens?, text]
        rfl
      rw [Document.read?, Format.read?, Json.read?, unread]
      rfl
  | toml =>
      have read : Format.toml.read? s.annotated = _ := Settings.read?_annotated s
      rw [Document.read?, read, Option.bind_some]
      rcases s with ⟨_ | rows, _ | size⟩
      · rfl
      · rfl
      · rfl
      · rfl

/-- A run that reads its settings at a place, if its arguments get it that far. -/
def Program.ReadsSettingsAt (args : List String) (w : World) (place : Place) : Prop :=
  ∀ c, Command.parse args = .ok c → (∀ force, c.task ≠ .writeSettings force) ∧
    w.files.locate w.directory (c.settingsFile w) = .ok place

variable {c : Command} {w : World} {place : Place}

/-- The settings that are read from the defaults are those that hold without a file. -/
theorem settingsIn_without
    (defaults : w.files.find? place = some (.file Settings.default.annotated))
    (located : w.files.locate w.directory (c.settingsFile w) = .ok place) :
    c.settingsIn { w with files := w.files.without place } = c.settingsIn w := by
  have read := read_ok.mpr ⟨place, located, defaults⟩
  have missing := (lacks_without defaults).read_missing located
  have path : c.settingsFile { w with files := w.files.without place } = c.settingsFile w := rfl
  rw [Command.settingsIn, Command.settingsIn, path, read, missing, Settings.ofFile,
    Settings.ofFile, Settings.ofText?_annotated]
  rfl

theorem documentIn?_without
    (defaults : w.files.find? place = some (.file Settings.default.annotated)) (file : String) :
    documentIn? { w with files := w.files.without place } file = documentIn? w file := by
  have lacks := lacks_without defaults
  unfold documentIn? documentText
  by_cases dash : file = "-"
  · rw [if_pos dash, if_pos dash]
  · rw [if_neg dash, if_neg dash]
    obtain same | here := lacks.read w.directory file
    · rw [same]
    · -- the document is the settings file itself
      have read := read_ok.mpr ⟨place, here, defaults⟩
      rw [lacks.read_missing here, read]
      exact (read?_settings _ _).symm

theorem shown?_without
    (defaults : w.files.find? place = some (.file Settings.default.annotated))
    (located : w.files.locate w.directory (c.settingsFile w) = .ok place) :
    c.shown? { w with files := w.files.without place } = c.shown? w := by
  unfold Command.shown?
  rw [settingsIn_without defaults located]
  simp only [documentIn?_without defaults]

theorem observed_without {args : List String} (reads : Program.ReadsSettingsAt args w place)
    (defaults : w.files.find? place = some (.file Settings.default.annotated)) :
    Program.observed args { w with files := w.files.without place } = Program.observed args w := by
  cases parsed : Command.parse args with
  | error interruption =>
      unfold Program.observed Program.run
      rw [parsed]
      cases interruption <;> rfl
  | ok c =>
      obtain ⟨reading, located⟩ := reads c parsed
      rw [Program.observed_eq parsed reading, Program.observed_eq parsed reading,
        shown?_without defaults located]

end Unnoticed

/-- Writing the default settings fails where there is something at the path already, whatever it is,
and then changes nothing, unless it is forced. Nothing else changes in any case, but directories may
be made. Without force everything that is there is kept, unless the path goes up from a directory
that is missing. Once the settings are written, no later run that reads them can be told from one
without the file, by its exit status or by what it prints. -/
theorem defaults_unnoticed {c : Command} {args : List String} {force : Bool}
    (parsed : Command.parse args = .ok c) (task : c.task = .writeSettings force) (w : World) :
    let path := c.settingsFile w
    ∃ ending files warned,
      (Program.run World.machine args).run w =
        (ending, ({ w with files } : World).told "" warned) ∧
      (force = false → w.files.contains w.directory path = true →
        ending.status = 1 ∧ files = w.files) ∧
      (force = false → Steady w.files w.directory path →
        ∀ other entry, w.files.find? other = some entry → files.find? other = some entry) ∧
      (∀ other, files.find? other = w.files.find? other ∨
        (w.files.find? other = none ∧ files.find? other = some .directory) ∨
        (ending.status = 0 ∧ files.locate w.directory path = .ok other)) ∧
      (force = true ∨ w.files.contains w.directory path = false →
        ∀ absolute names last, path = Path.ofNames absolute (names ++ [last]) →
          (∀ name ∈ names ++ [last], Path.IsName name) → path.utf8ByteSize ≤ pathLimit →
          Open w.files (origin absolute w.directory) names last → ending.status = 0) ∧
      (ending.status = 0 → ∃ place, files.locate w.directory path = .ok place ∧
        ∀ args' later, Program.ReadsSettingsAt args' later place →
          later.files.find? place = files.find? place →
          Program.observed args' later =
            Program.observed args' { later with files := later.files.without place }) := by
  intro path
  obtain ⟨warned, runs⟩ := run_defaults task w
  refine ⟨_, _, warned, program_run parsed runs, ?refused, ?kept, ?frame, ?opens, ?unnoticed⟩
  case refused =>
    rintro rfl present
    rw [defaultsTo_present present]
    exact ⟨rfl, rfl⟩
  case kept =>
    rintro rfl steady other entry here
    exact defaultsTo_unforced steady here
  case frame =>
    intro other
    rw [status_after]
    exact defaultsTo_kept w.files w.directory path force other
  case opens =>
    intro allowed absolute names last leads plain short opens
    rw [status_after]
    change c.settingsFile w = _ at leads
    rw [leads]
    exact defaultsTo_open (leads ▸ allowed) plain (leads ▸ short) opens
  case unnoticed =>
    intro written
    obtain ⟨place, located, present⟩ := read_ok.mp (read_defaultsTo (status_after.mp written))
    refine ⟨place, located, fun args' later reads same => ?_⟩
    exact (observed_without reads (same.trans present)).symm

/-- A settings file that cannot even be read. -/
def brokenWorld : World := { files := ⟨[(["strata.toml"], .file "max_batch_rows = ")]⟩ }

/-- Settings are written to a directory that is made for them, and make no difference to a document
from the standard input. A broken file is not written over. -/
theorem defaults_unnoticed_nested :
    (∃ files warned place,
      (Program.run World.machine ["--config", "conf/strata.toml", "defconfig"]).run {} =
        (.done, ({ files } : World).told "" warned) ∧
      ∀ input, Program.observed ["-c", "conf/strata.toml", "compile", "-"] { files, input } =
        Program.observed ["-c", "conf/strata.toml", "compile", "-"]
          { files := files.without place, input }) ∧
      ∃ failure warned,
        (Program.run World.machine ["-c", "strata.toml", "defconfig"]).run brokenWorld =
          (.failed failure, brokenWorld.told "" warned) := by
  constructor
  · have parsed : Command.parse ["--config", "conf/strata.toml", "defconfig"] =
      .ok ⟨.writeSettings false, .info, false, true, some "conf/strata.toml"⟩ := rfl
    obtain ⟨ending, files, warned, runs, -, -, -, writes, unnoticed⟩ :=
      defaults_unnoticed parsed rfl {}
    have status := writes (.inr (by decide)) true ["conf"] "strata.toml" (by decide) (by decide)
      (by decide) (open_empty ["conf"] "strata.toml")
    obtain ⟨place, located, same⟩ := unnoticed status
    refine ⟨files, warned, place, ?_, fun input => same _ { files, input } ?_ rfl⟩
    · cases ending with
      | done => exact runs
      | failed failure => cases status
      | refused => cases status
    · rintro c parsed
      cases parsed
      exact ⟨nofun, located⟩
  · have parsed : Command.parse ["-c", "strata.toml", "defconfig"] =
      .ok ⟨.writeSettings false, .info, false, true, some "strata.toml"⟩ := rfl
    obtain ⟨ending, files, warned, runs, refused, -⟩ := defaults_unnoticed parsed rfl brokenWorld
    obtain ⟨status, rfl⟩ := refused rfl (by decide)
    cases ending with
    | failed failure => exact ⟨failure, warned, runs⟩
    | done => cases status
    | refused => cases status

end BoundSql
