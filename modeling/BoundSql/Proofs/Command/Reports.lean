import BoundSql.Command.Program
import BoundSql.Proofs.Settings.Load

/-! What a command tells the world: the text that it prints, and warnings beside it. Nothing else in
the world changes while it reads settings and a document. -/
namespace BoundSql

/-- The world after a text has been printed in it, and warnings have been given. -/
def World.told (w : World) (printed warned : String) : World :=
  { w with output := w.output ++ printed, errors := w.errors ++ warned }

namespace World

@[simp] theorem told_files (w : World) (printed warned : String) :
    (w.told printed warned).files = w.files := rfl

@[simp] theorem told_directory (w : World) (printed warned : String) :
    (w.told printed warned).directory = w.directory := rfl

theorem told_nothing (w : World) : w.told "" "" = w := by
  simp [told]

theorem told_told (w : World) (printed warned printed' warned' : String) :
    (w.told printed warned).told printed' warned' =
      w.told (printed ++ printed') (warned ++ warned') := by
  simp [told, String.append_assoc]

end World

/-- A program that gives an answer and prints a text, with any warnings. -/
def Reports {α : Type} (act : StateM World α) (w : World) (answer : α) (printed : String) : Prop :=
  ∃ warned, act.run w = (answer, w.told printed warned)

namespace Reports

variable {α β : Type} {w : World} {answer : α} {printed : String}

theorem silent (answer : α) (w : World) : Reports (pure answer) w answer "" :=
  ⟨"", Prod.ext rfl (World.told_nothing w).symm⟩

theorem step {act : StateM World α} {next : α → StateM World β} {later : β}
    {warned more : String} (runs : act.run w = (answer, w.told printed warned))
    (rest : Reports (next answer) (w.told printed warned) later more) :
    Reports (act >>= next) w later (printed ++ more) := by
  obtain ⟨warned', runs'⟩ := rest
  refine ⟨warned ++ warned', ?_⟩
  rw [StateT.run_bind, runs]
  exact runs'.trans (Prod.ext rfl (World.told_told ..))

theorem step_silent {act : StateM World α} {next : α → StateM World β} {later : β}
    {warned more : String} (runs : act.run w = (answer, w.told "" warned))
    (rest : Reports (next answer) (w.told "" warned) later more) :
    Reports (act >>= next) w later more := by
  have both := step runs rest
  rwa [String.empty_append] at both

/-- After a program that prints nothing the text is that of the rest. -/
theorem after {act : StateM World α} {next : α → StateM World β} {later : β} {more : String}
    (first : Reports act w answer "")
    (rest : ∀ warned, Reports (next answer) (w.told "" warned) later more) :
    Reports (act >>= next) w later more := by
  obtain ⟨warned, runs⟩ := first
  exact step_silent runs (rest warned)

/-- Before a program that prints nothing the text is that of what comes first. -/
theorem before {act : StateM World α} {next : α → StateM World β} {later : β}
    (first : Reports act w answer printed)
    (rest : ∀ warned, Reports (next answer) (w.told printed warned) later "") :
    Reports (act >>= next) w later printed := by
  obtain ⟨warned, runs⟩ := first
  have both := step runs (rest warned)
  rwa [String.append_empty] at both

variable (c : Command)

theorem warn (text : String) (w : World) : Reports (World.machine.warn text) w () "" :=
  ⟨text, Prod.ext rfl (congrArg (fun output => { w with output, errors := w.errors ++ text })
    (String.append_empty (s := w.output)).symm)⟩

theorem print (text : String) (w : World) : Reports (World.machine.print text) w () text :=
  ⟨"", Prod.ext rfl (congrArg (fun errors => { w with output := w.output ++ text, errors })
    (String.append_empty (s := w.errors)).symm)⟩

/-- A note is a warning or nothing, as the command asks for notes or not. -/
theorem note (note : Note) (w : World) :
    Reports ((World.machine.reporting c).note note) w () "" := by
  unfold Machine.reporting
  dsimp only
  split
  · exact warn _ w
  · exact silent () w

theorem notes (notes : List Note) (w : World) :
    Reports (notes.forM (World.machine.reporting c).note) w () "" := by
  induction notes generalizing w with
  | nil => exact silent () w
  | cons first rest ih => exact after (note c first w) fun _ => ih _

theorem read (path : String) (w : World) :
    Reports ((World.machine.reporting c).read path) w (w.files.read w.directory path) "" :=
  silent _ w

theorem input (w : World) :
    Reports (World.machine.reporting c).input w (.ok w.input) "" :=
  silent _ w

end Reports

open Reports

/-- The path of the settings file that a command reads. -/
def Command.settingsFile (c : Command) (w : World) : String :=
  match c.settingsPath with
  | some path => Path.join w.directoryPath path
  | none =>
    Settings.defaultPath (w.environment.lookup "STRATA_CONFIG")
      (w.environment.lookup "XDG_CONFIG_HOME") (w.environment.lookup "HOME")

/-- The limits that a command reads from its settings file. -/
def Command.limitsIn (c : Command) (w : World) : Except Settings.Fault Options :=
  Settings.fileLimits (w.files.read w.directory (c.settingsFile w))

variable (c : Command) (w : World)

theorem settingsPathOn_reports :
    Reports (Command.settingsPathOn (World.machine.reporting c) c) w (c.settingsFile w) "" := by
  unfold Command.settingsPathOn Command.settingsFile
  cases c.settingsPath with
  | none => exact silent _ w
  | some path =>
      refine after (silent w.directoryPath w) fun _ => ?_
      exact after (note c _ _) fun _ => silent _ _

theorem load_reports (path : String) :
    Reports (Settings.load (World.machine.reporting c) path) w
      (Settings.ofFile (w.files.read w.directory path)) "" := by
  unfold Settings.load
  refine after (Reports.read c path w) fun _ => ?_
  rcases w.files.read w.directory path with (_ | _) | text
  · exact after (note c _ _) fun _ => silent _ _
  · exact silent _ _
  · refine after (note c _ _) fun _ => ?_
    unfold Settings.ofFile
    dsimp only
    cases Settings.ofText? text <;> exact silent _ _

/-- The text of a document, from a file or from the standard input. -/
def documentText (w : World) (file : String) : Except AccessFault String :=
  if file = "-" then .ok w.input else w.files.read w.directory file

def documentFormat (file : String) : Format := if file = "-" then .json else .ofPath file

/-- The document that a command is given. -/
def documentIn? (w : World) (file : String) : Option Document :=
  (documentText w file).toOption.bind (Document.read? (documentFormat file))

/-- A document from its text, if that has been read. -/
def documentOf (format : Format) (action : String) :
    Except AccessFault String → Except Failure Document
  | .error _ => .error (.inaccessible action)
  | .ok text =>
    match Document.read? format text with
    | none => .error (.malformed format)
    | some d => .ok d

theorem documentOf_toOption (format : Format) (action : String)
    (content : Except AccessFault String) :
    (documentOf format action content).toOption =
      content.toOption.bind (Document.read? format) := by
  cases content with
  | error fault => rfl
  | ok text =>
      unfold documentOf
      dsimp only [Except.toOption, Option.bind_some]
      cases Document.read? format text <;> rfl

theorem readDocument_reports (file : String) :
    ∃ found, Reports (Command.readDocument (World.machine.reporting c) file) w found "" ∧
      found.toOption = documentIn? w file := by
  unfold Command.readDocument documentIn? documentText documentFormat
  by_cases dash : file = "-"
  · simp only [if_pos dash, pure_bind]
    refine ⟨documentOf .json "reading query document from stdin" (.ok w.input), ?_,
      documentOf_toOption ..⟩
    refine after (input c w) fun _ => ?_
    unfold documentOf
    dsimp only
    cases Document.read? .json w.input <;> exact silent _ _
  · simp only [if_neg dash, pure_bind]
    refine ⟨documentOf (.ofPath file) ("reading " ++ file) (w.files.read w.directory file), ?_,
      documentOf_toOption ..⟩
    refine after (read c file w) fun _ => ?_
    cases w.files.read w.directory file with
    | error fault => exact silent _ _
    | ok text =>
        unfold documentOf
        dsimp only
        cases Document.read? (.ofPath file) text <;> exact silent _ _

end BoundSql
