import BoundSql.Proofs.Batch.Insert
import BoundSql.Proofs.Tame.Compiled

/-! Insertions with placeholders and insertions with literals. They are the same statements: writing
the arguments of one at its question marks gives the other. -/
namespace BoundSql
open Outcome Statement

namespace Statement

/-- A text with its question marks replaced by texts in turn, if there are as many of both. What is
put in is not looked at again. -/
def replaceMarks : List Char → List String → Option (List Char)
  | [], [] => some []
  | [], _ :: _ => none
  | c :: rest, texts =>
    if c = '?' then
      match texts with
      | [] => none
      | text :: later => (replaceMarks rest later).map (text.toList ++ ·)
    else (replaceMarks rest texts).map (c :: ·)

/-- The text of a statement with the literal of each argument in place of its question mark. -/
def inlined? (s : Statement) : Option String :=
  (replaceMarks s.sql.toList (s.args.map Value.literal)).map String.ofList

/-- In a text without quotes every question mark is a placeholder. -/
theorem replaceMarks_eq_fill {cs : List Char} (unquoted : '\'' ∉ cs) {texts : List String}
    (count : placeholders false cs = texts.length) :
    replaceMarks cs texts = some (fill false cs texts) := by
  induction cs generalizing texts with
  | nil =>
      cases texts with
      | nil => rfl
      | cons text later => cases count
  | cons c rest ih =>
      obtain ⟨plain, later⟩ := List.ne_and_not_mem_of_not_mem_cons unquoted
      rw [placeholders, if_neg plain.symm] at count
      by_cases mark : c = '?'
      · subst mark
        cases texts with
        | nil => cases count
        | cons text more =>
            rw [replaceMarks, if_pos rfl, ih later (Nat.succ.inj count)]
            rfl
      · have kept : fill false (c :: rest) texts = c :: fill false rest texts := by
          cases texts <;> simp [fill, plain.symm, mark]
        rw [if_neg (by simp [mark])] at count
        rw [kept]
        unfold replaceMarks
        rw [if_neg mark, ih later count]
        rfl

theorem Renders.inlined {s : Statement} {text : String} (h : s.Renders text)
    (unquoted : '\'' ∉ s.sql.toList) : s.inlined? = some text := by
  have count : placeholders false s.sql.toList = (s.args.map Value.literal).length := by
    rw [List.length_map]
    exact h.count
  rw [inlined?, replaceMarks_eq_fill unquoted count, Option.map_some]
  exact congrArg some h.filled

end Statement

namespace Insert

theorem unquoted_of_tame {text : String} (h : Tame text) : '\'' ∉ text.toList := by
  intro quote
  have tame := h.alphabet '\'' quote
  revert tame
  decide

/-- One batch: the statement with its values written in is the text. -/
theorem batchStatement_inlined {a : Aligned} {i : Insert} {conflict : String}
    (table : Name.isIdentifier a.table.toList)
    (columns : ∀ name ∈ a.columns, Name.isIdentifier name.toList)
    (clause : i.conflictClause = .ok conflict) {batch : List (List Value)}
    (sizes : ∀ row ∈ batch, row.length = a.columns.length) :
    (batchStatement a conflict batch).inlined? = some (batchText a conflict batch) := by
  have tame := tame_batchStatement table columns (tame_conflictClause clause) batch
  have renders := batchStatement_renders table columns (conflictClause_inert clause) sizes
  exact renders.inlined (unquoted_of_tame tame)

/-- The two ways to compile an insertion fail alike, or else give batch by batch the same
statements: each text is the statement with its arguments written in. -/
theorem compileLiteral_inlined (options : Options) (i : Insert) :
    Agree (List.Forall₂ fun s text => s.inlined? = some text) (i.compile options)
      (i.compileLiteral options) := by
  unfold compile compileLiteral
  cases aligned : Aligned.ofRows i.rows with
  | error fault => exact .error fault
  | ok a =>
      cases clause : i.conflictClause with
      | error fault => exact .error fault
      | ok conflict =>
          obtain ⟨first, rest, values, -, table, -, columns, fits, rfl⟩ :=
            Aligned.ofRows_ok.mp aligned
          have sizes : ∀ row ∈ values, row.length = first.columns.length :=
            forall_right (fun _ _ h => h.held.length_eq.symm) fits
          refine .ok ?_
          rw [List.forall₂_map_left_iff, List.forall₂_map_right_iff, List.forall₂_same]
          intro batch member
          apply batchStatement_inlined table columns clause
          intro row inside
          exact sizes row (mem_of_mem_chunks (i.batchSize_pos options) member row inside)

end Insert
end BoundSql
