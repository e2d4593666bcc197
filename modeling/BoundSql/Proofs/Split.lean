import BoundSql.Text.Split
import Mathlib.Data.List.TakeWhile

/-! Texts that are put together around a divider and cut at it again. -/
namespace BoundSql.Text

variable {divider : Char} {cs : List Char}

/-- All pieces between dividers. -/
def cut (divider : Char) (cs : List Char) : List (List Char) :=
  (pieces divider cs).1 :: (pieces divider cs).2

theorem split_eq (s : String) : split divider s = (cut divider s.toList).map String.ofList := rfl

theorem lines_eq (s : String) :
    lines s = (linesAmong (cut '\n' s.toList)).map String.ofList := rfl

theorem pieces_append (free : divider ∉ cs) (rest : List Char) :
    pieces divider (cs ++ divider :: rest) = (cs, cut divider rest) := by
  induction cs with
  | nil => simp only [List.nil_append, pieces, if_true, cut]
  | cons c more ih =>
      rw [List.mem_cons, not_or] at free
      simp only [List.cons_append, pieces, ih free.2, if_neg (Ne.symm free.1)]

theorem cut_append (free : divider ∉ cs) (rest : List Char) :
    cut divider (cs ++ divider :: rest) = cs :: cut divider rest := by
  rw [cut, pieces_append free]

theorem cut_whole (free : divider ∉ cs) : cut divider cs = [cs] := by
  induction cs with
  | nil => rfl
  | cons c more ih =>
      rw [List.mem_cons, not_or] at free
      obtain ⟨whole, nothing⟩ := List.cons.inj (ih free.2)
      simp only [cut, pieces, if_neg (Ne.symm free.1), whole, nothing]

theorem linesAmong_cut (line rest : List Char) :
    linesAmong (line :: cut '\n' rest) = withoutReturn line :: linesAmong (cut '\n' rest) := rfl

/-- Lines with a line end behind each are the lines of the whole. -/
theorem lines_join {texts : List String}
    (plain : ∀ line ∈ texts, '\n' ∉ line.toList ∧ line.toList.getLast? ≠ some '\r') :
    lines (String.join (texts.map (· ++ "\n"))) = texts := by
  rw [lines_eq]
  induction texts with
  | nil => rfl
  | cons line rest ih =>
      obtain ⟨⟨free, ending⟩, later⟩ := List.forall_mem_cons.mp plain
      have parted : (String.join ((line :: rest).map (· ++ "\n"))).toList =
          line.toList ++ '\n' :: (String.join (rest.map (· ++ "\n"))).toList := by
        rw [List.map_cons, String.join_cons, String.toList_append, String.toList_append,
          List.append_assoc]
        rfl
      rw [parted, cut_append free, linesAmong_cut, withoutReturn, if_neg ending, List.map_cons,
        String.ofList_toList, ih later]

/-- Names without the divider are the pieces of what it joins them to. -/
theorem cut_intercalate {names : List (List Char)} (present : names ≠ [])
    (free : ∀ name ∈ names, divider ∉ name) :
    cut divider ([divider].intercalate names) = names := by
  induction names with
  | nil => exact absurd rfl present
  | cons name rest ih =>
      obtain ⟨first, later⟩ := List.forall_mem_cons.mp free
      cases rest with
      | nil => rw [List.intercalate_singleton, cut_whole first]
      | cons next more =>
          rw [List.intercalate_cons_cons, List.append_assoc, List.singleton_append,
            cut_append first, ih (by simp) later]

section UpTo
variable (count : Nat)

theorem passes_of_free (free : divider ∉ cs) : ∀ c ∈ cs, (c != divider) = true :=
  fun _ mem => bne_iff_ne.mpr (ne_of_mem_of_not_mem mem free)

theorem splitUpTo_whole (free : divider ∉ cs) : splitUpTo divider (count + 1) cs = [cs] := by
  cases count with
  | zero => rfl
  | succ count =>
      rw [splitUpTo, List.dropWhile_eq_nil_iff.mpr (passes_of_free free)]

theorem splitUpTo_append (free : divider ∉ cs) (rest : List Char) :
    splitUpTo divider (count + 2) (cs ++ divider :: rest) =
      cs :: splitUpTo divider (count + 1) rest := by
  have passes := passes_of_free free
  have back : (cs ++ divider :: rest).dropWhile (· != divider) = divider :: rest := by
    rw [List.dropWhile_append_of_pos passes, List.dropWhile_cons_of_neg (by simp)]
  have front : (cs ++ divider :: rest).takeWhile (· != divider) = cs := by
    rw [List.takeWhile_append_of_pos passes, List.takeWhile_cons_of_neg (by simp), List.append_nil]
  rw [splitUpTo, back, front]

/-- A text is free of the divider, or has a first one. -/
theorem free_or_divided (divider : Char) (cs : List Char) :
    divider ∉ cs ∨ ∃ front rest, divider ∉ front ∧ cs = front ++ divider :: rest :=
  (em (divider ∈ cs)).symm.imp_right fun mem => by
    obtain ⟨front, rest, parted, free⟩ := List.eq_append_cons_of_mem mem
    exact ⟨front, rest, free, parted⟩

end UpTo

end BoundSql.Text
