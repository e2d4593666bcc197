import BoundSql.Proofs.Shape.Fields
import BoundSql.Proofs.Split
import BoundSql.Proofs.Toml.Lines
import BoundSql.Settings.Store

/-! Settings as the text of a file. A comment leaves no trace when the file is read, so that the
settings come back as they were written. -/
namespace BoundSql.Settings
open Shape Text

/-- The lines of a comment. -/
def commentLines (lines : List String) : List Toml.Line :=
  lines.map fun line => .comment (" " ++ line)

/-- The line of a setting, under the comment on it. -/
def settingLines : Key × UInt64 → List Toml.Line
  | (key, n) => commentLines key.description ++ [.number key.name n.toNat]

/-- The lines of the file. -/
def fileLines (s : Settings) : List Toml.Line :=
  commentLines description ++ .empty :: s.given.flatMap settingLines

theorem comment_text (lines : List String) : comment lines = Toml.textOf (commentLines lines) := by
  rw [comment, Toml.textOf, commentLines, List.map_map]
  refine congrArg String.join (List.map_congr_left fun line _ => ?_)
  rw [Function.comp_apply, Toml.Line.text, ← String.append_assoc]
  rfl

/-- The line of a setting without its line end. -/
def assignment : Key × UInt64 → String
  | (key, n) => key.name ++ " = " ++ ofNat n.toNat

/-- A number ends its line, which therefore holds no line end. -/
theorem lines_written (s : Settings) : lines s.written = s.given.map assignment := by
  have joined : s.written = String.join ((s.given.map assignment).map (· ++ "\n")) := by
    rw [written, List.map_map]
    rfl
  rw [joined, lines_join]
  intro line mem
  obtain ⟨⟨key, n⟩, -, rfl⟩ := List.mem_map.mp mem
  have digits := isDigit_of_mem (n := n.toNat)
  simp only [assignment, ofNat, String.toList_append, String.toList_ofList]
  constructor
  · simp only [List.mem_append, not_or]
    refine ⟨⟨?_, by decide⟩, fun mem => apart_of_isDigit (digits _ mem) (by decide) rfl⟩
    cases key <;> decide
  · rw [List.getLast?_append_of_ne_nil _ Nat.toDigits_ne_nil]
    intro last
    exact apart_of_isDigit (digits _ (List.mem_of_getLast? last)) (by decide) rfl

/-- The comment is found by what stands in front of the equals sign. -/
theorem annotatedLine_assignment (setting : Key × UInt64) :
    annotatedLine (assignment setting) = Toml.textOf (settingLines setting) := by
  obtain ⟨key, n⟩ := setting
  have front : (assignment (key, n)).toList =
      (key.name ++ " ").toList ++ '=' :: (" " ++ ofNat n.toNat).toList := by
    simp only [assignment, String.toList_append, List.append_assoc]
    rfl
  have unequal : '=' ∉ (key.name ++ " ").toList := by cases key <;> decide
  have known : Key.ofName? (trim (String.ofList (key.name ++ " ").toList)) = some key := by
    cases key <;> decide
  rw [annotatedLine, front, pieces_append unequal, known, Option.map_some, Option.getD_some,
    comment_text, settingLines, Toml.textOf_append, String.append_assoc]
  rfl

theorem textOf_flatMap {α : Type} (lines : α → List Toml.Line) (xs : List α) :
    Toml.textOf (xs.flatMap lines) = String.join (xs.map fun x => Toml.textOf (lines x)) := by
  induction xs with
  | nil => rfl
  | cons x rest ih =>
      rw [List.flatMap_cons, Toml.textOf_append, ih, List.map_cons, String.join_cons]

theorem annotated_text (s : Settings) : s.annotated = Toml.textOf s.fileLines := by
  have settings : (lines s.written).map annotatedLine =
      s.given.map fun setting => Toml.textOf (settingLines setting) := by
    rw [lines_written, List.map_map]
    exact List.map_congr_left fun setting _ => annotatedLine_assignment setting
  rw [annotated, settings, fileLines, Toml.textOf_append, Toml.textOf_cons, textOf_flatMap,
    comment_text, String.append_assoc]
  rfl

theorem plain_commentLines {lines : List String}
    (printable : lines.all (·.toList.all Toml.isPrintable) = true) :
    ∀ line ∈ commentLines lines, line.IsPlain := by
  intro line mem
  obtain ⟨text, given, rfl⟩ := List.mem_map.mp mem
  intro c hc
  rw [String.toList_append, List.mem_append] at hc
  obtain space | inside := hc
  · obtain rfl := List.mem_singleton.mp space
    rfl
  · exact List.all_eq_true.mp (List.all_eq_true.mp printable text given) c inside

theorem plain_settingLines (setting : Key × UInt64) :
    ∀ line ∈ settingLines setting, line.IsPlain := by
  obtain ⟨key, n⟩ := setting
  refine List.forall_mem_append.mpr ⟨plain_commentLines ?_, ?_⟩
  · cases key <;> decide
  · rintro line mem
    obtain rfl := List.mem_singleton.mp mem
    refine ⟨?_, ?_, n.toNat_lt⟩
    · cases key <;> decide
    · cases key <;> exact List.all_eq_true.mp (by decide)

theorem plain_fileLines (s : Settings) : ∀ line ∈ s.fileLines, line.IsPlain := by
  refine List.forall_mem_append.mpr ⟨plain_commentLines (by decide), ?_⟩
  refine List.forall_mem_cons.mpr ⟨trivial, fun line mem => ?_⟩
  obtain ⟨setting, -, inside⟩ := List.mem_flatMap.mp mem
  exact plain_settingLines setting line inside

theorem numbersOf_commentLines (lines : List String) (rest : List Toml.Line) :
    Toml.numbersOf (commentLines lines ++ rest) = Toml.numbersOf rest := by
  induction lines with
  | nil => rfl
  | cons line later ih => exact ih

/-- Comments hold no numbers. -/
theorem numbersOf_fileLines (s : Settings) :
    Toml.numbersOf s.fileLines = s.given.map fun (key, n) => (key.name, n.toNat) := by
  rw [fileLines, numbersOf_commentLines]
  change Toml.numbersOf (s.given.flatMap settingLines) = _
  induction s.given with
  | nil => rfl
  | cons setting rest ih =>
      rw [List.flatMap_cons, settingLines, List.append_assoc, numbersOf_commentLines]
      exact congrArg (_ :: ·) ih

theorem given_apart (s : Settings) :
    ((s.given.map fun (key, n) => (key.name, n.toNat)).map Prod.fst).Nodup := by
  rcases s with ⟨_ | rows, _ | size⟩ <;> simp [given, Key.name]

theorem given_record (s : Settings) :
    (s.given.map fun (key, n) => (key.name, n.toNat)).map (fun (key, n) => (key, Node.whole n)) =
      record [["max_batch_rows"], ["default_page_size"]]
        [s.maxBatchRows.map ofCount, s.pageSize.map ofCount] := by
  rcases s with ⟨_ | rows, _ | size⟩ <;> rfl

theorem read?_annotated (s : Settings) : Toml.read? s.annotated = some (.table (record
    [["max_batch_rows"], ["default_page_size"]]
    [s.maxBatchRows.map ofCount, s.pageSize.map ofCount])) := by
  have apart : ((Toml.numbersOf s.fileLines).map Prod.fst).Nodup := by
    rw [numbersOf_fileLines]
    exact given_apart s
  rw [annotated_text, Toml.read?_lines (plain_fileLines s) apart, numbersOf_fileLines,
    given_record]

/-- What is written is read. -/
theorem ofText?_annotated (s : Settings) : ofText? s.annotated = some s := by
  rw [ofText?, read?_annotated, Option.bind_some]
  unfold settings?
  rw [fields?_record (by decide) rfl]
  simp only [optional_count, Option.bind_eq_bind, Option.bind_some]
  rfl

end BoundSql.Settings
