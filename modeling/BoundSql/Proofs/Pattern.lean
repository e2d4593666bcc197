import BoundSql.Condition.Column
import BoundSql.Proofs.Condition
import Mathlib.Data.List.Infix

/-! Patterns of LIKE, and the texts that match them. A text that is looked for anywhere in a column
stands between two wildcards of a pattern, and is itself read as one there. -/
namespace BoundSql

namespace Pattern

/-- Whether a text matches a pattern. A percent sign matches any run of characters, an underscore
any one character, and every other character itself. -/
def accepts : List Char → List Char → Bool
  | [], text => text.isEmpty
  | '%' :: pattern, text => text.tails.any (accepts pattern)
  | _ :: _, [] => false
  | p :: pattern, c :: rest => (p = '_' || p = c) && accepts pattern rest

def isWildcard (c : Char) : Bool := c = '%' || c = '_'

variable {pattern text : List Char}

theorem accepts_nil : accepts [] text ↔ text = [] := by
  rw [accepts, List.isEmpty_iff]

theorem accepts_run :
    accepts ('%' :: pattern) text ↔ ∃ run rest, run ++ rest = text ∧ accepts pattern rest := by
  rw [accepts, List.any_eq_true]
  constructor
  · rintro ⟨rest, tail, matched⟩
    obtain ⟨run, whole⟩ := (List.mem_tails _ _).mp tail
    exact ⟨run, rest, whole, matched⟩
  · rintro ⟨run, rest, whole, matched⟩
    exact ⟨rest, (List.mem_tails _ _).mpr ⟨run, whole⟩, matched⟩

theorem accepts_single {p : Char} (single : p ≠ '%') :
    accepts (p :: pattern) text ↔
      ∃ c rest, c :: rest = text ∧ (p = '_' ∨ p = c) ∧ accepts pattern rest := by
  cases text with
  | nil => simp [accepts]
  | cons c rest => simp [accepts, and_assoc]

/-- A text matches two patterns in a row if it has a part for each. -/
theorem accepts_append {a b : List Char} :
    accepts (a ++ b) text ↔ ∃ u v, u ++ v = text ∧ accepts a u ∧ accepts b v := by
  induction a generalizing text with
  | nil => simp [accepts_nil]
  | cons p a ih =>
      by_cases run : p = '%'
      · subst run
        simp only [List.cons_append, accepts_run, ih]
        constructor
        · rintro ⟨run, _, rfl, u, v, rfl, first, second⟩
          exact ⟨run ++ u, v, List.append_assoc .., ⟨run, u, rfl, first⟩, second⟩
        · rintro ⟨_, v, rfl, ⟨run, u, rfl, first⟩, second⟩
          exact ⟨run, u ++ v, (List.append_assoc ..).symm, u, v, rfl, first, second⟩
      · simp only [List.cons_append, accepts_single run, ih]
        constructor
        · rintro ⟨c, _, rfl, fits, u, v, rfl, first, second⟩
          exact ⟨c :: u, v, rfl, ⟨c, u, rfl, fits, first⟩, second⟩
        · rintro ⟨_, v, rfl, ⟨c, u, rfl, fits, first⟩, second⟩
          exact ⟨c, u ++ v, rfl, fits, u, v, rfl, first, second⟩

theorem accepts_all : accepts ['%'] text :=
  accepts_run.mpr ⟨text, [], List.append_nil text, rfl⟩

/-- Between two wildcards, a pattern is looked for anywhere. -/
theorem accepts_anywhere :
    accepts ('%' :: (pattern ++ ['%'])) text ↔
      ∃ block, block <:+: text ∧ accepts pattern block := by
  rw [accepts_run]
  constructor
  · rintro ⟨before, _, rfl, matched⟩
    obtain ⟨block, after, rfl, found, -⟩ := accepts_append.mp matched
    exact ⟨block, ⟨before, after, List.append_assoc ..⟩, found⟩
  · rintro ⟨block, ⟨before, after, rfl⟩, found⟩
    refine ⟨before, block ++ after, (List.append_assoc ..).symm, ?_⟩
    exact accepts_append.mpr ⟨block, after, rfl, found, accepts_all⟩

/-- A pattern without a wildcard matches itself alone. -/
theorem accepts_plain (plain : ∀ c ∈ pattern, ¬ isWildcard c) :
    accepts pattern text ↔ text = pattern := by
  induction pattern generalizing text with
  | nil => exact accepts_nil
  | cons p pattern ih =>
      obtain ⟨first, later⟩ := List.forall_mem_cons.mp plain
      simp only [isWildcard, Bool.or_eq_true, decide_eq_true_eq, not_or] at first
      simp only [accepts_single first.1, first.2, false_or, ih later]
      constructor
      · rintro ⟨c, rest, rfl, rfl, rfl⟩
        rfl
      · rintro rfl
        exact ⟨p, pattern, rfl, rfl, rfl⟩

/-- A text that matches a pattern and has no wildcard in it. -/
def sample : List Char → List Char
  | [] => []
  | p :: pattern =>
    if p = '%' then sample pattern else (if p = '_' then 'a' else p) :: sample pattern

theorem accepts_sample (pattern : List Char) : accepts pattern (sample pattern) := by
  induction pattern with
  | nil => rfl
  | cons p pattern ih =>
      by_cases run : p = '%'
      · subst run
        exact accepts_run.mpr ⟨[], _, rfl, ih⟩
      · rw [sample, if_neg run]
        refine (accepts_single run).mpr ⟨_, _, rfl, ?_, ih⟩
        by_cases single : p = '_'
        · exact .inl single
        · exact .inr (if_neg single).symm

theorem sample_plain (pattern : List Char) : ∀ c ∈ sample pattern, ¬ isWildcard c := by
  induction pattern with
  | nil => exact List.forall_mem_nil _
  | cons p pattern ih =>
      rw [sample]
      split
      · exact ih
      · refine List.forall_mem_cons.mpr ⟨?_, ih⟩
        split <;> simp_all [isWildcard]

/-- Only a pattern without a wildcard is found just where it occurs. -/
theorem anywhere_iff_infix :
    (∀ text : String, accepts ('%' :: (pattern ++ ['%'])) text.toList ↔ pattern <:+: text.toList) ↔
      ∀ c ∈ pattern, ¬ isWildcard c := by
  constructor
  · intro faithful c member
    have found : accepts ('%' :: (pattern ++ ['%'])) (String.ofList (sample pattern)).toList := by
      rw [String.toList_ofList, accepts_anywhere]
      exact ⟨sample pattern, List.infix_rfl, accepts_sample pattern⟩
    have occurs := (faithful _).mp found
    rw [String.toList_ofList] at occurs
    exact sample_plain pattern c (occurs.subset member)
  · intro plain text
    simp only [accepts_anywhere, accepts_plain plain, exists_eq_right]

end Pattern

namespace Column
open Outcome

theorem compile_contains {c : Column} (valid : Name.isColumn c.name.toList) (needle : String) :
    (c.contains needle).compile =
      .ok ⟨c.name ++ " LIKE ?", [.text ("%" ++ needle ++ "%")]⟩ := by
  have operator : Operator.parse Operator.like.sql = .ok .like := by decide
  have text : c.name ++ " LIKE ?" = c.name ++ " " ++ Operator.like.sql ++ " ?" := by
    rw [String.append_assoc, String.append_assoc]
    rfl
  rw [contains, compare, Condition.leaf, Condition.compile_comparison, Comparison.compile_ok, text]
  exact ⟨valid, .like, operator, rfl, rfl⟩

/-- A text is looked for as a pattern of its own between two wildcards. So it is found wherever it
occurs, and nowhere else exactly if it has no wildcard. -/
theorem contains_matches (c : Column) (needle : String) (valid : Name.isColumn c.name.toList) :
    ∃ pattern : String,
      (c.contains needle).compile = .ok ⟨c.name ++ " LIKE ?", [.text pattern]⟩ ∧
      (∀ text : String, Pattern.accepts pattern.toList text.toList ↔
        ∃ block, block <:+: text.toList ∧ Pattern.accepts needle.toList block) ∧
      ((∀ text : String, Pattern.accepts pattern.toList text.toList ↔
          needle.toList <:+: text.toList) ↔
        ∀ ch ∈ needle.toList, ¬ Pattern.isWildcard ch) := by
  have chars : ("%" ++ needle ++ "%").toList = '%' :: (needle.toList ++ ['%']) := by
    simp
  refine ⟨_, compile_contains valid needle, ?_, ?_⟩
  · intro text
    rw [chars]
    exact Pattern.accepts_anywhere
  · rw [chars]
    exact Pattern.anywhere_iff_infix

theorem contains_matches_notes :
    Name.isColumn "t.notes".toList ∧ (∀ ch ∈ "it's 5?".toList, ¬ Pattern.isWildcard ch) ∧
      ∃ pattern : String,
        ((Column.mk "t.notes").contains "it's 5?").compile =
          .ok ⟨"t.notes LIKE ?", [.text pattern]⟩ ∧
        ∀ text : String, Pattern.accepts pattern.toList text.toList ↔
          "it's 5?".toList <:+: text.toList := by
  have valid : Name.isColumn "t.notes".toList := by decide
  have plain : ∀ ch ∈ "it's 5?".toList, ¬ Pattern.isWildcard ch := by
    simp [Pattern.isWildcard]
  obtain ⟨pattern, compiled, -, exactly⟩ := contains_matches ⟨"t.notes"⟩ "it's 5?" valid
  exact ⟨valid, plain, pattern, compiled, exactly.mpr plain⟩

/-- A percent sign that is looked for matches any text instead. -/
theorem contains_overmatched :
    ∃ pattern : String,
      ((Column.mk "discount").contains "50%").compile =
        .ok ⟨"discount LIKE ?", [.text pattern]⟩ ∧
      Pattern.accepts pattern.toList "500 off".toList ∧
      ¬ "50%".toList <:+: "500 off".toList := by
  have compiled := compile_contains (c := ⟨"discount"⟩) (by decide) "50%"
  exact ⟨_, compiled, by decide, by decide⟩

end Column
end BoundSql
