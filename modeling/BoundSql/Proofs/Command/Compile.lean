import BoundSql.Proofs.Batch.Insert
import BoundSql.Proofs.Command.Shown
import BoundSql.Proofs.Json.Laid
import BoundSql.Proofs.Json.Nesting
import BoundSql.Proofs.Shape.Change

/-! Compiling a document from the command line prints the whole list of its statements, or nothing
at all. -/
namespace BoundSql
open Outcome Reports

/-- The list that a compilation prints: all statements of a document, each as a table of its text
and its arguments, or all texts of an insertion with its values in them. -/
inductive Listing (options : Options) : Bool → Document → Node → Prop
  | statements {d : Document} {statements : List Statement}
      (compiled : d.compile options = .ok statements) :
      Listing options false d (.list (statements.map fun s =>
        .table [("sql", .text s.sql), ("args", .list (s.args.map Shape.ofValue))]))
  | literals {i : Insert} {texts : List String} (compiled : i.compileLiteral options = .ok texts) :
      Listing options true (.insert i) (.list (texts.map .text))

/-- A document that there is no such list for. -/
inductive Refused (options : Options) : Bool → Document → Prop
  | statements {d : Document} {fault : Fault} (fails : d.compile options = .error fault) :
      Refused options false d
  | literals {i : Insert} {fault : Fault} (fails : i.compileLiteral options = .error fault) :
      Refused options true (.insert i)
  | other {d : Document} (other : ∀ i, d ≠ .insert i) : Refused options true d

theorem Listing.not_refused {options : Options} {raw : Bool} {d : Document} {node : Node}
    (listing : Listing options raw d node) : ¬ Refused options raw d := by
  intro refused
  cases listing with
  | statements compiled =>
      cases refused with
      | statements fails => cases compiled.symm.trans fails
  | literals compiled =>
      cases refused with
      | literals fails => cases compiled.symm.trans fails
      | other other => exact other _ rfl

theorem Listing.unique {options : Options} {raw : Bool} {d : Document} {node other : Node}
    (first : Listing options raw d node) (second : Listing options raw d other) : node = other := by
  cases first with
  | statements compiled =>
      cases second with
      | statements compiled' =>
          cases compiled.symm.trans compiled'
          rfl
  | literals compiled =>
      cases second with
      | literals compiled' =>
          cases compiled.symm.trans compiled'
          rfl

/-- A program that prints the list of a document, or that fails and prints nothing. -/
def PrintsAll (act : StateM World (Except Failure Unit)) (w : World) (listing : Node → Prop)
    (refused : Prop) : Prop :=
  (∃ node printed, listing node ∧ Json.Displays node printed ∧ Reports act w (.ok ()) printed) ∨
    (refused ∧ ∃ failure, Reports act w (.error failure) "")

theorem PrintsAll.of_shows {act : StateM World (Except Failure Unit)} {w : World}
    {listing : Node → Prop} {refused : Prop} {shown : Option String} (shows : Shows act w shown)
    (lists : (∃ node printed, listing node ∧ Json.Displays node printed ∧ shown = some printed) ∨
      (refused ∧ shown = none)) : PrintsAll act w listing refused := by
  obtain ⟨node, printed, listed, displays, rfl⟩ | ⟨refused, rfl⟩ := lists
  · exact .inl ⟨node, printed, listed, displays, shows⟩
  · exact .inr ⟨refused, shows⟩

variable {c : Command}

/-- With JSON for output the text of a document is that of its list. -/
theorem compiledText?_listed (json : c.json = true) (options : Options) (raw : Bool)
    (d : Document) :
    (∃ node printed, Listing options raw d node ∧ Json.Displays node printed ∧
        c.compiledText? options raw d = some printed) ∨
      (Refused options raw d ∧ c.compiledText? options raw d = none) := by
  cases raw with
  | false =>
      have text : c.compiledText? options false d =
        (d.compile options).toOption.map c.statementsText := rfl
      rw [text]
      cases compiled : d.compile options with
      | error fault => exact .inr ⟨.statements compiled, rfl⟩
      | ok statements =>
          have each : statements.map Shape.ofStatement = statements.map fun s =>
              .table [("sql", .text s.sql), ("args", .list (s.args.map Shape.ofValue))] :=
            List.map_congr_left fun s _ => by rw [Shape.ofStatement, Shape.ofValues_eq]
          refine .inl ⟨_, _, .statements compiled, Json.displays_pretty _, congrArg some ?_⟩
          rw [Command.statementsText, if_pos json, each]
  | true =>
      cases d with
      | insert i =>
          have text : c.compiledText? options true (.insert i) =
            (i.compileLiteral options).toOption.map c.literalText := rfl
          rw [text]
          cases compiled : i.compileLiteral options with
          | error fault => exact .inr ⟨.literals compiled, rfl⟩
          | ok texts =>
              refine .inl ⟨_, _, .literals compiled, Json.displays_pretty _, congrArg some ?_⟩
              rw [Command.literalText, if_pos json]
      | select | query | update | delete => exact .inr ⟨.other nofun, rfl⟩

theorem run_all (json : c.json = true) {file : String} {raw : Bool} {batch : Option UInt64}
    (task : c.task = .compile file raw batch) (w : World) :
    PrintsAll (c.run World.machine) w
      (fun node => ∃ limits d, c.limitsIn w = .ok limits ∧ documentIn? w file = some d ∧
        Listing (limits.given batch) raw d node)
      ((∃ fault, c.limitsIn w = .error fault) ∨ documentIn? w file = none ∨
        ∃ limits d, c.limitsIn w = .ok limits ∧ documentIn? w file = some d ∧
          Refused (limits.given batch) raw d) := by
  have holds := Settings.ofFile_holds (w.files.read w.directory (c.settingsFile w))
  refine .of_shows (c.run_shows (by rw [task]; exact nofun) w) ?_
  unfold Command.shown? Command.settingsIn Command.limitsIn
  rw [task]
  dsimp only
  generalize Settings.ofFile (w.files.read w.directory (c.settingsFile w)) = loaded at holds ⊢
  generalize Settings.fileLimits (w.files.read w.directory (c.settingsFile w)) = limits at holds ⊢
  cases holds with
  | error fault => exact .inr ⟨.inl ⟨fault, rfl⟩, rfl⟩
  | @ok settings limits holds =>
      cases found : documentIn? w file with
      | none => exact .inr ⟨.inr (.inl rfl), rfl⟩
      | some d =>
          rw [← holds.options]
          obtain ⟨node, printed, listed, displays, text⟩ | ⟨fails, text⟩ :=
            compiledText?_listed json (settings.options.given batch) raw d
          · exact .inl ⟨node, printed, ⟨_, d, rfl, rfl, listed⟩, displays, text⟩
          · exact .inr ⟨.inr (.inr ⟨_, d, rfl, rfl, fails⟩), text⟩

section Insertions
variable {i : Insert}

theorem insert?_unlimited {d : Shape.Dialect} {n : Node} (read : Shape.insert? d n = some i) :
    i.maxRows = none := by
  unfold Shape.insert? at read
  split at read
  · simp only [Option.bind_eq_bind, Option.bind_eq_some_iff, Option.pure_def,
      Option.some.injEq] at read
    obtain ⟨rows, -, conflict, -, rfl⟩ := read
    rfl
  · cases read

/-- An insertion of a document has no limit of its own. -/
theorem document?_unlimited {d : Shape.Dialect} {n : Node}
    (read : Shape.document? d n = some (.insert i)) : i.maxRows = none := by
  unfold Shape.document? at read
  split at read
  case h_3 =>
    obtain ⟨_, given, same⟩ := Option.map_eq_some_iff.mp read
    cases same
    exact insert?_unlimited given
  case h_6 => cases read
  all_goals
    obtain ⟨_, -, same⟩ := Option.map_eq_some_iff.mp read
    cases same

theorem documentIn?_unlimited {w : World} {file : String}
    (given : documentIn? w file = some (.insert i)) : i.maxRows = none := by
  obtain ⟨text, -, read⟩ := Option.bind_eq_some_iff.mp given
  obtain ⟨n, -, read⟩ := Option.bind_eq_some_iff.mp read
  exact document?_unlimited read

/-- Rows are inserted only if all of them fit the first one. -/
theorem ofRows_unfit {first row : Row} {rest : List Row} (mem : row ∈ first :: rest)
    (unfit : ∀ values, ¬ Row.Fits first row values) :
    ∃ fault, Aligned.ofRows (first :: rest) = .error fault := by
  cases rows : Aligned.ofRows (first :: rest) with
  | error fault => exact ⟨fault, rfl⟩
  | ok a =>
      obtain ⟨_, _, values, same, -, -, -, fits, -⟩ := Aligned.ofRows_ok.mp rows
      cases same
      have some_values := forall_right (P := fun r => ∃ values, Row.Fits first r values)
        (fun values r held => ⟨values, held⟩) fits.flip
      obtain ⟨held, fits⟩ := some_values row mem
      exact absurd fits (unfit held)

theorem refused_unfit {options : Options} {raw : Bool} {first row : Row} {rest : List Row}
    (rows : i.rows = first :: rest) (mem : row ∈ i.rows)
    (unfit : ∀ values, ¬ Row.Fits first row values) : Refused options raw (.insert i) := by
  rw [rows] at mem
  obtain ⟨fault, fails⟩ := ofRows_unfit mem unfit
  rw [← rows] at fails
  cases raw with
  | false =>
      have compiled : Document.compile options (.insert i) = .error fault := by
        rw [Document.compile, Insert.compile, fails]
        rfl
      exact .statements compiled
  | true =>
      have compiled : i.compileLiteral options = .error fault := by
        rw [Insert.compileLiteral, fails]
        rfl
      exact .literals compiled

end Insertions

/-- Where a list is printed, none of the reasons for a failure holds. -/
theorem unfailed_of_listed {limits : Except Settings.Fault Options} {found : Option Document}
    {batch : Option UInt64} {raw : Bool} {node : Node}
    (listed : ∃ l d, limits = .ok l ∧ found = some d ∧ Listing (l.given batch) raw d node) :
    ¬ ((∃ fault, limits = .error fault) ∨ found = none ∨
      ∃ l d, limits = .ok l ∧ found = some d ∧ Refused (l.given batch) raw d) := by
  obtain ⟨l, d, rfl, rfl, listing⟩ := listed
  rintro (⟨fault, fails⟩ | absent | ⟨l', d', same, same', refused⟩)
  · cases fails
  · cases absent
  · cases same
    cases same'
    exact listing.not_refused refused

theorem Ending.eq_done {ending : Ending} (status : ending.status = 0) : ending = .done := by
  cases ending with
  | done => rfl
  | failed failure => cases status
  | refused => cases status

/-- Where there is a list, the run succeeds and displays it. -/
theorem displays_of_listed {limits : Except Settings.Fault Options} {found : Option Document}
    {batch : Option UInt64} {raw : Bool} {ending : Ending} {printed : String} {l : Options}
    {d : Document} {node : Node}
    (outcome : (ending.status = 0 ∧ ∃ l d node, limits = .ok l ∧ found = some d ∧
      Listing (l.given batch) raw d node ∧ Json.Displays node printed) ∨
        (ending.status = 1 ∧ printed = ""))
    (failing : ending.status = 1 ↔ (∃ fault, limits = .error fault) ∨ found = none ∨
      ∃ l d, limits = .ok l ∧ found = some d ∧ Refused (l.given batch) raw d)
    (set : limits = .ok l) (given : found = some d) (listed : Listing (l.given batch) raw d node) :
    ending = .done ∧ Json.Displays node printed := by
  have unfailed := unfailed_of_listed ⟨l, d, set, given, listed⟩
  obtain ⟨status, l', d', node', set', given', listed', displays⟩ :=
    outcome.resolve_right fun failed => unfailed (failing.mp failed.1)
  cases set'.symm.trans set
  cases given'.symm.trans given
  cases listed'.unique listed
  exact ⟨Ending.eq_done status, displays⟩

/-- Compiling a document with JSON for output prints the list of all its statements, or fails and
prints nothing. The size of its batches is the one that the arguments give, or else the one in the
settings file, or else 100. It fails where the settings are no good, where there is no document,
where literal texts are asked for but the document is no insertion, and where it does not compile.
A single row that does not fit the first one is enough for that. -/
theorem compile_all_or_nothing {args : List String} {file : String} {raw : Bool}
    {batch : Option UInt64} (parsed : Command.parse args = .ok c)
    (task : c.task = .compile file raw batch) (json : c.json = true) (w : World) :
    ∃ ending printed warned,
      (Program.run World.machine args).run w = (ending, w.told printed warned) ∧
      ((ending.status = 0 ∧ ∃ limits d node, c.limitsIn w = .ok limits ∧
          documentIn? w file = some d ∧ Listing (limits.given batch) raw d node ∧
            Json.Displays node printed) ∨
        (ending.status = 1 ∧ printed = "")) ∧
      (ending.status = 1 ↔
        (∃ fault, c.limitsIn w = .error fault) ∨ documentIn? w file = none ∨
          ∃ limits d, c.limitsIn w = .ok limits ∧ documentIn? w file = some d ∧
            Refused (limits.given batch) raw d) ∧
      ∀ i, documentIn? w file = some (.insert i) → i.maxRows = none ∧
        ∀ first rest row, i.rows = first :: rest → row ∈ i.rows →
          (∀ values, ¬ Row.Fits first row values) → ending.status = 1 ∧ printed = "" := by
  have unfit : ∀ i, documentIn? w file = some (.insert i) →
      ∀ first rest row, i.rows = first :: rest → row ∈ i.rows →
        (∀ values, ¬ Row.Fits first row values) → (∃ fault, c.limitsIn w = .error fault) ∨
          ∃ limits d, c.limitsIn w = .ok limits ∧ documentIn? w file = some d ∧
            Refused (limits.given batch) raw d := by
    intro i given first rest row rows mem unfit
    cases c.limitsIn w with
    | error fault => exact .inl ⟨fault, rfl⟩
    | ok limits => exact .inr ⟨limits, _, rfl, given, refused_unfit rows mem unfit⟩
  obtain ⟨node, printed, listed, displays, ends⟩ | ⟨fails, failure, ends⟩ := run_all json task w
  · obtain ⟨warned, runs⟩ := program_reports parsed ends
    have holds := unfailed_of_listed listed
    obtain ⟨limits, d, set, found, listing⟩ := listed
    refine ⟨_, _, warned, runs, .inl ⟨rfl, limits, d, node, set, found, listing, displays⟩, ?_, ?_⟩
    · exact ⟨nofun, fun fails => absurd fails holds⟩
    · intro i given
      refine ⟨documentIn?_unlimited given, fun first rest row rows mem bad => ?_⟩
      exact absurd ((unfit i given first rest row rows mem bad).imp_right .inr) holds
  · obtain ⟨warned, runs⟩ := program_reports parsed ends
    refine ⟨_, _, warned, runs, .inr ⟨rfl, rfl⟩, ⟨fun _ => fails, fun _ => rfl⟩, fun i given => ?_⟩
    exact ⟨documentIn?_unlimited given, fun _ _ _ _ _ _ => ⟨rfl, rfl⟩⟩

/-- Settings that cut an insertion into single rows, and one of two rows on the standard input. -/
def peopleWorld : World where
  files := ⟨[(["config.toml"], .file "max_batch_rows = 1\n")]⟩
  environment := [("STRATA_CONFIG", "/config.toml")]
  input := "\x7b\"insert\":\x7b\"rows\":[" ++
    "\x7b\"table\":\"users\",\"fields\":\x7b\"name\":\"ada\",\"age\":36\x7d\x7d," ++
    "\x7b\"table\":\"users\",\"fields\":\x7b\"age\":null,\"name\":\"it's\"\x7d\x7d]\x7d\x7d\n"

def people : Insert where
  rows := [⟨"users", [("name", .text "ada"), ("age", .integer 36)]⟩,
    ⟨"users", [("age", .null), ("name", .text "it's")]⟩]

def peopleText : String :=
  "[\n" ++
  "  \x7b\n" ++
  "    \"sql\": \"INSERT INTO users (name, age) VALUES (?, ?)\",\n" ++
  "    \"args\": [\n" ++
  "      \"ada\",\n" ++
  "      36\n" ++
  "    ]\n" ++
  "  \x7d,\n" ++
  "  \x7b\n" ++
  "    \"sql\": \"INSERT INTO users (name, age) VALUES (?, ?)\",\n" ++
  "    \"args\": [\n" ++
  "      \"it's\",\n" ++
  "      null\n" ++
  "    ]\n" ++
  "  \x7d\n" ++
  "]\n"

def peopleTree : Node :=
  .table [("insert", .table [("rows", .list [
    .table [("table", .text "users"),
      ("fields", .table [("name", .text "ada"), ("age", .whole 36)])],
    .table [("table", .text "users"),
      ("fields", .table [("age", .null), ("name", .text "it's")])]])])]

set_option maxRecDepth 100000 in
theorem documentIn?_people : documentIn? peopleWorld "-" = some (.insert people) := by
  have read : Json.read? peopleWorld.input = some peopleTree := by rfl
  have text : documentText peopleWorld "-" = .ok peopleWorld.input := if_pos rfl
  have format : documentFormat "-" = .json := if_pos rfl
  rw [documentIn?, text, format, Except.toOption, Option.bind_some, Document.read?, Format.read?,
    read]
  rfl

set_option maxRecDepth 100000 in
theorem limitsIn_people {c : Command} (path : c.settingsPath = none) :
    c.limitsIn peopleWorld = .ok ⟨1, 20⟩ := by
  have given : Settings.ofText? "max_batch_rows = 1\n" = some ⟨some 1, none⟩ := by
    decide +kernel
  have file : peopleWorld.files.read peopleWorld.directory "/config.toml" =
    .ok "max_batch_rows = 1\n" := by rfl
  have leads : c.settingsFile peopleWorld = "/config.toml" := by
    rw [Command.settingsFile, path]
    rfl
  rw [Command.limitsIn, leads, file, Settings.fileLimits, given]
  rfl
/-- Two rows, of which the second has not the column of the first. -/
def uneven : List Row :=
  [⟨"users", [("name", .text "ada")]⟩, ⟨"users", [("age", .integer 36)]⟩]

/-- The document that inserts them. -/
def unevenNode : Node :=
  .table [("insert", .table [("rows", .list (uneven.map Shape.ofRow))])]

def unevenWorld : World := { input := Json.compact unevenNode }

theorem documentIn?_uneven : documentIn? unevenWorld "-" = some (.insert { rows := uneven }) := by
  have free : ∀ r ∈ uneven, ∀ v ∈ r.fields.map (·.2), v.isRealFree := by decide
  have plain : Node.Plain unevenNode := by
    refine .table (List.forall_mem_singleton.mpr (.table (List.forall_mem_singleton.mpr ?_)))
    exact Shape.plain_list fun r mem => Shape.plain_ofRow (free r mem)
  have read : Format.json.read? (Json.compact unevenNode) = some unevenNode :=
    Json.read?_compact plain (by decide)
  have text : documentText unevenWorld "-" = .ok (Json.compact unevenNode) := if_pos rfl
  have format : documentFormat "-" = .json := if_pos rfl
  rw [documentIn?, text, format, Except.toOption, Option.bind_some, Document.read?, read]
  rfl

set_option maxRecDepth 100000 in
/-- One statement for each row, as the settings have it, and with both rows in one where the
arguments ask for that and for literal values. Of rows that do not fit not even the batch of the
first one is printed. -/
theorem compile_people :
    (∃ warned, (Program.run World.machine ["--json", "compile", "-"]).run peopleWorld =
        (.done, peopleWorld.told peopleText warned)) ∧
      (∃ warned,
        (Program.run World.machine ["compile", "-j", "--raw", "-b2", "-"]).run peopleWorld =
        (.done, peopleWorld.told ("[\n  \"INSERT INTO users (name, age) VALUES ('ada', 36), " ++
          "('it''s', NULL)\"\n]\n") warned)) ∧
      ∃ ending warned,
        (Program.run World.machine ["--json", "compile", "-b", "1", "-"]).run unevenWorld =
          (ending, unevenWorld.told "" warned) ∧ ending.status = 1 := by
  refine ⟨?_, ?_, ?_⟩
  · have parsed : Command.parse ["--json", "compile", "-"] =
      .ok ⟨.compile "-" false none, .info, true, true, none⟩ := rfl
    have limits := limitsIn_people (c := ⟨.compile "-" false none, .info, true, true, none⟩) rfl
    have compiled : Document.compile (Options.given none ⟨1, 20⟩) (.insert people) = .ok
        [⟨"INSERT INTO users (name, age) VALUES (?, ?)", [.text "ada", .integer 36]⟩,
          ⟨"INSERT INTO users (name, age) VALUES (?, ?)", [.text "it's", .null]⟩] := by rfl
    have listed := Listing.statements compiled
    obtain ⟨ending, printed, warned, runs, outcome, failing, -⟩ :=
      compile_all_or_nothing parsed rfl rfl peopleWorld
    obtain ⟨rfl, displays⟩ := displays_of_listed outcome failing limits documentIn?_people listed
    refine ⟨warned, ?_⟩
    rw [runs, displays.laid]
    rfl
  · have parsed : Command.parse ["compile", "-j", "--raw", "-b2", "-"] =
      .ok ⟨.compile "-" true (some 2), .info, true, true, none⟩ := rfl
    have limits := limitsIn_people (c := ⟨.compile "-" true (some 2), .info, true, true, none⟩) rfl
    have compiled : people.compileLiteral (Options.given (some 2) ⟨1, 20⟩) = .ok
        ["INSERT INTO users (name, age) VALUES ('ada', 36), ('it''s', NULL)"] := by rfl
    have listed := Listing.literals compiled
    obtain ⟨ending, printed, warned, runs, outcome, failing, -⟩ :=
      compile_all_or_nothing parsed rfl rfl peopleWorld
    obtain ⟨rfl, displays⟩ := displays_of_listed outcome failing limits documentIn?_people listed
    refine ⟨warned, ?_⟩
    rw [runs, displays.laid]
    rfl
  · have unfit : ∀ values, ¬ Row.Fits ⟨"users", [("name", .text "ada")]⟩
        ⟨"users", [("age", .integer 36)]⟩ values := by
      intro values fits
      have columns := fits.columns_perm (by decide)
      exact absurd columns (by decide)
    have parsed : Command.parse ["--json", "compile", "-b", "1", "-"] =
      .ok ⟨.compile "-" false (some 1), .info, true, true, none⟩ := rfl
    obtain ⟨ending, printed, warned, runs, -, -, rows⟩ :=
      compile_all_or_nothing parsed rfl rfl unevenWorld
    obtain ⟨status, rfl⟩ :=
      (rows _ documentIn?_uneven).2 _ _ _ rfl (List.mem_of_getLast? rfl) unfit
    exact ⟨ending, warned, runs, status⟩

end BoundSql
