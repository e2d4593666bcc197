import BoundSql.Proofs.Condition

/-! The texts that stand for an operator: the words of its SQL text, in any case of their letters
and with any white space around them, but with none inside them. -/
namespace BoundSql
open Outcome

namespace Operator
open Text (isBlank)

/-- The pieces of a text between white space, without the empty ones and with ASCII letters in upper
case. -/
def spelling (cs : List Char) : List (List Char) :=
  ((cs.splitOnP isBlank).filter (· ≠ [])).map (·.map Char.toUpper)

/-- That a text has the words of an operator's SQL text. -/
def Spells (op : Operator) (cs : List Char) : Prop := spelling cs = op.sql.toList.splitOn ' '

/-- The characters of a text that are no white space, with ASCII letters in upper case. -/
def characters (cs : List Char) : List Char := (cs.filter (!isBlank ·)).map Char.toUpper

/-- That a text is rewritten with other cases of ASCII letters, with more white space at its ends,
or with other white space for a run of it, any number of times. -/
inductive Respelled : List Char → List Char → Prop
  | recased {cs ds : List Char} (letters : cs.map Char.toUpper = ds.map Char.toUpper) :
      Respelled cs ds
  | padded {before after : List Char} (cs : List Char) (hb : ∀ c ∈ before, isBlank c)
      (ha : ∀ c ∈ after, isBlank c) : Respelled cs (before ++ cs ++ after)
  | respaced {run other : List Char} (a b : List Char) (present : run ≠ []) (kept : other ≠ [])
      (hr : ∀ c ∈ run, isBlank c) (ho : ∀ c ∈ other, isBlank c) :
      Respelled (a ++ run ++ b) (a ++ other ++ b)
  | trans {cs ds es : List Char} (first : Respelled cs ds) (second : Respelled ds es) :
      Respelled cs es

/-- That a text has the characters of an operator's text, but white space inside a single word of
it, or none between two of its words. -/
inductive Misspaced (op : Operator) : List Char → Prop
  | inside {before after : List Char} {gap : Char} (single : ' ' ∉ op.sql.toList)
      (same : characters (before ++ gap :: after) = characters op.sql.toList) (blank : isBlank gap)
      (hb : characters before ≠ []) (ha : characters after ≠ []) :
      Misspaced op (before ++ gap :: after)
  | missing {first second before after : List Char} {x y : Char}
      (parts : op.sql.toList = first ++ ' ' :: second) (hx : isBlank x = false)
      (hy : isBlank y = false) (earlier : characters (before ++ [x]) = characters first)
      (later : characters (y :: after) = characters second) :
      Misspaced op (before ++ x :: y :: after)

theorem spelling_words (cs : List Char) :
    spelling cs = (Text.words cs).map (·.map Char.toUpper) := by
  rw [spelling, ← Text.words_eq]

theorem spelling_eq (cs : List Char) : spelling cs = Text.words (cs.map Char.toUpper) := by
  rw [spelling_words, Text.words_map Text.isBlank_toUpper]

theorem spelling_divided (a b : List Char) {gap : Char} (blank : isBlank gap) :
    spelling (a ++ gap :: b) = spelling a ++ spelling b := by
  simp only [spelling_words, Text.words_divided a b blank, List.map_append]

theorem flatten_spelling (cs : List Char) : (spelling cs).flatten = characters cs := by
  rw [spelling_words, ← List.map_flatten, Text.flatten_words, characters]

theorem Respelled.spelling_eq {cs ds : List Char} (h : Respelled cs ds) :
    spelling cs = spelling ds := by
  induction h with
  | recased letters => rw [Operator.spelling_eq, letters, Operator.spelling_eq]
  | padded cs hb ha =>
      rw [spelling_words, spelling_words, Text.words_before ha, Text.words_behind hb]
  | respaced a b present kept hr ho =>
      rw [spelling_words, spelling_words, Text.words_between hr present,
        Text.words_between ho kept]
  | trans _ _ first second => exact first.trans second

theorem ofKeyword?_iff {keyword : String} {op : Operator} :
    ofKeyword? keyword = some op ↔ op.sql = keyword := by
  constructor
  · intro found
    simpa using List.find?_some found
  · rintro rfl
    cases op <;> rfl

/-- An operator is looked up by the words of the given text with single spaces between them. -/
theorem toList_normalized (text : String) :
    (normalized text).toList = [' '].intercalate (spelling text.toList) := by
  have space : " ".toList.map Char.toUpper = [' '] := by decide
  rw [normalized, String.toList_ofList, String.toList_intercalate, List.map_map,
    Text.map_intercalate, space, spelling_words]
  simp only [Function.comp_def, String.toList_ofList, List.map_id']

theorem spaceless {cs word : List Char} (member : word ∈ spelling cs) : ' ' ∉ word := by
  rw [spelling_eq] at member
  intro space
  have visible := Text.not_isBlank_of_mem member ' ' space
  revert visible
  decide

theorem sql_ne_nil (op : Operator) : op.sql.toList ≠ [] := by
  cases op <;> decide

/-- A text is read as the operator whose words it has, since words without spaces can be told from
what they are joined to with spaces. -/
theorem parse_iff {text : String} {op : Operator} :
    parse text = .ok op ↔ op.Spells text.toList := by
  rw [parse_ok, ofKeyword?_iff, ← String.toList_inj, toList_normalized, Spells]
  constructor
  · intro same
    have present : spelling text.toList ≠ [] := by
      intro absent
      rw [absent] at same
      exact op.sql_ne_nil same
    rw [same, List.splitOn_intercalate ' ' (fun _ => spaceless) present]
  · intro same
    rw [same, List.intercalate_splitOn]

theorem parse_refused {text : String} (other : ∀ op, parse text ≠ .ok op) :
    parse text = .error (.invalidOperator text) := by
  cases read : parse text with
  | ok op => exact absurd read (other op)
  | error fault => rw [parse_error read]

/-- The words of an operator's text stand between single spaces. -/
theorem splitOn_sql (op : Operator) : op.sql.toList.splitOn ' ' = spelling op.sql.toList := by
  cases op <;> decide

theorem parse_sql (op : Operator) : parse op.sql = .ok op :=
  parse_iff.mpr op.splitOn_sql.symm

theorem parse_unique {text : String} {op other : Operator} (first : parse text = .ok op)
    (second : parse text = .ok other) : op = other :=
  Except.ok.inj (first.symm.trans second)

/-- The characters of its text tell an operator, however they are spaced. -/
theorem eq_of_characters {op other : Operator}
    (same : characters op.sql.toList = characters other.sql.toList) : op = other := by
  have found : ∀ op : Operator,
      all.find? (fun other => characters other.sql.toList = characters op.sql.toList) =
        some op := by
    intro op
    cases op <;> decide
  have first := found op
  rw [same] at first
  exact Option.some.inj (first.symm.trans (found other))

/-- A list is not divided inside one of its members. -/
theorem not_divided_inside {p q as bs : List (List Char)} {start rest : List Char}
    (hs : start ≠ []) (hr : rest ≠ []) (same : p ++ (start ++ rest) :: q = as ++ bs) :
    as.flatten ≠ p.flatten ++ start := by
  intro cut
  obtain ⟨more, rfl, tail⟩ | ⟨more, rfl, tail⟩ := List.append_eq_append_iff.mp same
  · rw [List.flatten_append, List.append_cancel_left_eq] at cut
    cases more with
    | nil => exact hs cut.symm
    | cons first more =>
        obtain ⟨rfl, -⟩ := List.cons.inj tail
        rw [List.flatten_cons, List.append_assoc, List.append_right_eq_self] at cut
        exact hr (List.append_eq_nil_iff.mp cut).1
  · rw [List.flatten_append, List.append_assoc, List.self_eq_append_right] at cut
    exact hs (List.append_eq_nil_iff.mp cut).2

theorem characters_append (a b : List Char) :
    characters (a ++ b) = characters a ++ characters b := by
  simp only [characters, List.filter_append, List.map_append]

/-- A text with a space between two of an operator's words has the words before and behind it. -/
theorem spelling_sql {op : Operator} {first second : List Char}
    (parts : op.sql.toList = first ++ ' ' :: second) :
    op.sql.toList.splitOn ' ' = spelling first ++ spelling second := by
  rw [splitOn_sql, parts, spelling_divided first second (by decide)]

theorem Misspaced.characters_eq {op : Operator} {cs : List Char} (h : Misspaced op cs) :
    characters cs = characters op.sql.toList := by
  cases h with
  | inside single same blank hb ha => exact same
  | @missing first second before after x y parts hx hy earlier later =>
      have space : characters (' ' :: second) = characters second := rfl
      rw [parts, characters_append first, space, ← earlier, ← later, ← characters_append,
        List.append_assoc]
      rfl

/-- White space at the wrong place makes other words. -/
theorem Misspaced.not_spells {op : Operator} {cs : List Char} (h : Misspaced op cs) :
    ¬ op.Spells cs := by
  cases h with
  | @inside before after gap single same blank hb ha =>
      rw [Spells, List.splitOn_eq_singleton single, spelling_divided before after blank]
      rw [← flatten_spelling] at hb ha
      intro one
      obtain ⟨nothing, -⟩ | ⟨-, nothing⟩ := List.append_eq_singleton_iff.mp one
      · exact hb (by rw [nothing]; rfl)
      · exact ha (by rw [nothing]; rfl)
  | @missing first second before after x y parts hx hy earlier later =>
      obtain ⟨words, start, rest, more, whole, front⟩ := Text.words_adjacent hx hy before after
      have cut := congrArg (List.map Char.toUpper) front
      rw [List.map_append, List.map_flatten] at cut
      rw [Spells, spelling_sql parts, spelling_words, whole, List.map_append, List.map_cons,
        List.map_append]
      intro same
      refine not_divided_inside (by simp) (by simp) same ?_
      rw [flatten_spelling, ← earlier, characters]
      exact cut.symm

/-- A text with the characters of an operator's text is no text of another operator. -/
theorem Misspaced.parse_error {op : Operator} {text : String} (h : Misspaced op text.toList) :
    parse text = .error (.invalidOperator text) := by
  apply parse_refused
  intro other parsed
  have spelled : other.Spells text.toList := parse_iff.mp parsed
  have same : op = other := by
    apply eq_of_characters
    rw [← h.characters_eq, ← flatten_spelling, spelled, splitOn_sql, flatten_spelling]
  exact h.not_spells (same ▸ spelled)

/-- A text that is rewritten is read as before, and only named otherwise in a fault. -/
theorem Respelled.parse_eq {text other : String} (h : Respelled text.toList other.toList) :
    parse other = (parse text).mapError fun _ => .invalidOperator other := by
  have alike : ∀ op, parse other = .ok op ↔ parse text = .ok op := fun op => by
    rw [parse_iff, parse_iff, Spells, Spells, h.spelling_eq]
  cases read : parse text with
  | ok op => exact (alike op).mpr read
  | error fault =>
      refine parse_refused fun op parsed => ?_
      have accepted := (alike op).mp parsed
      rw [read] at accepted
      cases accepted

end Operator

namespace Comparison

/-- A comparison compiles as it does with the operator in its own spelling. -/
theorem compile_canonical {field text : String} {value : Value} {op : Operator}
    (parsed : Operator.parse text = .ok op) (part : Statement) :
    (Comparison.mk field text value).compile = .ok part ↔
      (Comparison.mk field op.sql value).compile = .ok part := by
  simp only [compile_ok, parsed, op.parse_sql, Except.ok.injEq, exists_eq_left']
  exact Iff.rfl

end Comparison

namespace Operator

/-- A text is read as the operator whose words it has, and refused if it has those of none. So it is
all the same in which case its letters are and which white space is around its words, but no white
space may be inside them and some must be between them; and what is compiled is the operator. -/
theorem parse_spelled (text : String) :
    (∀ op, parse text = .ok op ↔ op.Spells text.toList) ∧
      (∀ op other : Operator, op.Spells text.toList → other.Spells text.toList → op = other) ∧
      ((∀ op : Operator, ¬ op.Spells text.toList) →
        parse text = .error (.invalidOperator text)) ∧
      (∀ other : String, Respelled text.toList other.toList →
        parse other = (parse text).mapError fun _ => .invalidOperator other) ∧
      (∀ op, Misspaced op text.toList → parse text = .error (.invalidOperator text)) ∧
      ∀ op, parse text = .ok op → ∀ field value part,
        (Comparison.mk field text value).compile = .ok part ↔
          (Comparison.mk field op.sql value).compile = .ok part := by
  refine ⟨fun op => parse_iff, ?_, ?_, ?_, ?_, ?_⟩
  · intro op other first second
    exact parse_unique (parse_iff.mpr first) (parse_iff.mpr second)
  · intro none
    exact parse_refused fun op parsed => none op (parse_iff.mp parsed)
  · intro other respelled
    exact respelled.parse_eq
  · intro op misspaced
    exact misspaced.parse_error
  · intro op parsed field value part
    exact Comparison.compile_canonical parsed part

/-- One operator in another case and with other white space, and without the space that it needs. -/
theorem parse_spelled_notLike :
    Respelled "NOT LIKE".toList "\tNot\u2003 like".toList ∧
      parse "\tNot\u2003 like" = .ok .notLike ∧ Misspaced .notLike "nOtlike".toList ∧
      parse "nOtlike" = .error (.invalidOperator "nOtlike") := by
  have respelled : Respelled "NOT LIKE".toList "\tNot\u2003 like".toList := by
    have recased : Respelled "NOT LIKE".toList "Not like".toList := .recased (by decide)
    have respaced : Respelled "Not like".toList "Not\u2003 like".toList :=
      @Respelled.respaced " ".toList "\u2003 ".toList "Not".toList "like".toList (by decide)
        (by decide) (List.all_eq_true.mp (by decide)) (List.all_eq_true.mp (by decide))
    have padded : Respelled "Not\u2003 like".toList "\tNot\u2003 like".toList :=
      @Respelled.padded "\t".toList [] "Not\u2003 like".toList
        (List.all_eq_true.mp (by decide)) (List.forall_mem_nil _)
    exact (recased.trans respaced).trans padded
  have misspaced : Misspaced .notLike "nOtlike".toList :=
    @Misspaced.missing _ "NOT".toList "LIKE".toList "nO".toList "ike".toList 't' 'l' (by decide)
      (by decide) (by decide) (by decide) (by decide)
  have canonical : parse "NOT LIKE" = .ok .notLike :=
    ((parse_spelled "NOT LIKE").1 .notLike).mpr (by unfold Spells; decide)
  have other := (parse_spelled "NOT LIKE").2.2.2.1 _ respelled
  rw [canonical] at other
  exact ⟨respelled, other, misspaced, (parse_spelled "nOtlike").2.2.2.2.1 _ misspaced⟩

end Operator
end BoundSql
