import BoundSql.Proofs.Command.Reports

/-! What a command shows to whoever runs it: whether it succeeds, and the text that it prints. Both
depend on its settings and its document alone, and a command that fails prints nothing. -/
namespace BoundSql
open Reports

/-- A program that prints a text, or that fails and prints nothing. -/
def Shows (act : StateM World (Except Failure Unit)) (w : World) : Option String → Prop
  | some printed => Reports act w (.ok ()) printed
  | none => ∃ failure, Reports act w (.error failure) ""

theorem Shows.after {α : Type} {first : StateM World α}
    {next : α → StateM World (Except Failure Unit)} {w : World} {answer : α}
    {shown : Option String} (reports : Reports first w answer "")
    (rest : ∀ warned, Shows (next answer) (w.told "" warned) shown) :
    Shows (first >>= next) w shown := by
  obtain ⟨warned, runs⟩ := reports
  cases shown with
  | none =>
      obtain ⟨failure, ends⟩ := rest warned
      exact ⟨failure, step_silent runs ends⟩
  | some printed => exact step_silent runs (rest warned)

theorem Shows.failed (failure : Failure) (w : World) : Shows (pure (.error failure)) w none :=
  ⟨failure, silent _ w⟩

theorem Shows.print (text : String) (w : World) :
    Shows (do
      World.machine.print text
      return .ok ()) w (some text) :=
  before (Reports.print text w) fun _ => silent _ _

/-- The limits of a compilation: the size of batches that it is given, or else that of the
settings. -/
def Options.given (batch : Option UInt64) (limits : Options) : Options :=
  ⟨batch.getD limits.maxBatchRows, limits.pageSize⟩

namespace Command
variable (c : Command)

/-- The text of a document's statements. -/
def statementsText? (options : Options) (d : Document) : Option String :=
  (d.compile options).toOption.map c.statementsText

/-- The text of an insertion's statements with their values in them. -/
def literalText? (options : Options) : Document → Option String
  | .insert i => (i.compileLiteral options).toOption.map c.literalText
  | _ => none

def compiledText? (options : Options) (raw : Bool) (d : Document) : Option String :=
  if raw then c.literalText? options d else c.statementsText? options d

/-- The settings that a command reads. -/
def settingsIn (w : World) : Except Settings.Fault Settings :=
  Settings.ofFile (w.files.read w.directory (c.settingsFile w))

/-- The text that a command shows which does not write, if it succeeds. -/
def shown? (w : World) : Option String :=
  match c.task with
  | .writeSettings _ => none
  | .showSettings => (c.settingsIn w).toOption.map c.settingsText
  | .compile file raw batch =>
    (c.settingsIn w).toOption.bind fun settings =>
      (documentIn? w file).bind (c.compiledText? (settings.options.given batch) raw)

theorem printStatements_shows (options : Options) (d : Document) (w : World) :
    Shows (printStatements (World.machine.reporting c) c options d) w
      (c.statementsText? options d) := by
  unfold printStatements statementsText?
  cases d.compile options with
  | error fault => exact Shows.failed _ w
  | ok statements => exact Shows.after (notes c _ w) fun _ => Shows.print _ _

theorem printLiterals_shows (options : Options) (d : Document) (w : World) :
    Shows (printLiterals (World.machine.reporting c) c options d) w (c.literalText? options d) := by
  unfold printLiterals literalText?
  cases d with
  | insert i =>
      dsimp only
      cases i.compileLiteral options with
      | error fault => exact Shows.failed _ w
      | ok texts =>
          dsimp only
          split
          · exact Shows.after (note c _ w) fun _ => Shows.print _ _
          · exact Shows.print _ w
  | select | query | update | delete => exact Shows.failed _ w

theorem compileFile_shows (settings : Settings) (file : String) (raw : Bool)
    (batch : Option UInt64) (w : World) :
    Shows (compileFile (World.machine.reporting c) c settings file raw batch) w
      ((documentIn? w file).bind (c.compiledText? (settings.options.given batch) raw)) := by
  obtain ⟨found, reads, given⟩ := readDocument_reports c w file
  unfold compileFile
  refine Shows.after reads fun warned => ?_
  rw [← given]
  cases found with
  | error failure => exact Shows.failed _ _
  | ok d =>
      dsimp only
      refine Shows.after (note c _ _) fun warned' => ?_
      cases raw with
      | true => exact c.printLiterals_shows _ d _
      | false => exact c.printStatements_shows _ d _

theorem run_shows (reading : ∀ force, c.task ≠ .writeSettings force) (w : World) :
    Shows (c.run World.machine) w (c.shown? w) := by
  unfold Command.run shown? settingsIn
  refine Shows.after (settingsPathOn_reports c w) fun warned => ?_
  cases task : c.task with
  | writeSettings force => exact absurd task (reading force)
  | compile file raw batch =>
      refine Shows.after (load_reports c _ _) fun warned' => ?_
      rw [World.told_files, World.told_directory]
      cases Settings.ofFile (w.files.read w.directory (c.settingsFile w)) with
      | error fault => exact Shows.failed _ _
      | ok settings => exact c.compileFile_shows settings file raw batch _
  | showSettings =>
      refine Shows.after (load_reports c _ _) fun warned' => ?_
      rw [World.told_files, World.told_directory]
      cases Settings.ofFile (w.files.read w.directory (c.settingsFile w)) with
      | error fault => exact Shows.failed _ _
      | ok settings => exact Shows.print _ _

end Command

/-- How the program ends after its command. -/
def Ending.after : Except Failure Unit → Ending
  | .ok () => .done
  | .error failure => .failed failure

theorem program_run {c : Command} {args : List String} (parsed : Command.parse args = .ok c)
    {w after : World} {outcome : Except Failure Unit}
    (runs : (c.run World.machine).run w = (outcome, after)) :
    (Program.run World.machine args).run w = (.after outcome, after) := by
  unfold Program.run
  rw [parsed]
  dsimp only
  rw [StateT.run_bind, runs]
  cases outcome <;> rfl

theorem program_reports {c : Command} {args : List String} (parsed : Command.parse args = .ok c)
    {w : World} {outcome : Except Failure Unit} {printed : String}
    (reports : Reports (c.run World.machine) w outcome printed) :
    Reports (Program.run World.machine args) w (.after outcome) printed := by
  obtain ⟨warned, runs⟩ := reports
  exact ⟨warned, program_run parsed runs⟩

/-- The exit status of a run and all that it prints. -/
def Program.observed (args : List String) (w : World) : UInt8 × String :=
  let (ending, after) := (Program.run World.machine args).run { w with output := "" }
  (ending.status, after.output)

theorem Program.observed_eq {c : Command} {args : List String}
    (parsed : Command.parse args = .ok c) (reading : ∀ force, c.task ≠ .writeSettings force)
    (w : World) :
    Program.observed args w = match c.shown? w with
      | some printed => (0, printed)
      | none => (1, "") := by
  have shows := c.run_shows reading { w with output := "" }
  have same : c.shown? { w with output := "" } = c.shown? w := rfl
  rw [same] at shows
  unfold observed
  generalize c.shown? w = shown at shows ⊢
  cases shown with
  | some printed =>
      obtain ⟨warned, runs⟩ := program_reports parsed shows
      simp only [runs]
      exact Prod.ext rfl String.empty_append
  | none =>
      obtain ⟨failure, ends⟩ := shows
      obtain ⟨warned, runs⟩ := program_reports parsed ends
      simp only [runs]
      rfl

end BoundSql
