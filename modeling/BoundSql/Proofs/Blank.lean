import Mathlib.Data.List.TakeWhile
import BoundSql.Text.Blank

/-! What trimming takes from a text, and what texts that are joined have in common. -/
namespace BoundSql.Text

/-- What holds of texts put together if it holds of each of them holds of texts with a separator
between them. -/
theorem intercalate_induct {P : String → Prop} (empty : P "")
    (append : ∀ {a b}, P a → P b → P (a ++ b)) {separator : String} (hs : P separator)
    {texts : List String} (h : ∀ text ∈ texts, P text) : P (separator.intercalate texts) := by
  induction texts with
  | nil => rwa [String.intercalate_nil]
  | cons text rest ih =>
      obtain ⟨htext, hrest⟩ := List.forall_mem_cons.mp h
      cases rest with
      | nil => rwa [String.intercalate_singleton]
      | cons next more =>
          rw [String.intercalate_cons_cons]
          exact append (append htext hs) (ih hrest)

/-- Trimming takes white space from both ends, and nothing else. -/
theorem trimmed_between (cs : List Char) :
    ∃ before after, cs = before ++ trimmed cs ++ after ∧ (∀ c ∈ before, isBlank c) ∧
      ∀ c ∈ after, isBlank c := by
  refine ⟨cs.takeWhile isBlank, ((cs.dropWhile isBlank).reverse.takeWhile isBlank).reverse,
    ?_, ?_, ?_⟩
  · have back := congrArg List.reverse
      (List.takeWhile_append_dropWhile (p := isBlank) (l := (cs.dropWhile isBlank).reverse))
    rw [List.reverse_append, List.reverse_reverse] at back
    rw [trimmed, List.append_assoc, back, List.takeWhile_append_dropWhile]
  · exact fun c hc => List.mem_takeWhile_imp hc
  · exact fun c hc => List.mem_takeWhile_imp (List.mem_reverse.mp hc)

theorem blank_of_trim {s : String} (h : trim s = "") : ∀ c ∈ s.toList, isBlank c := by
  obtain ⟨before, after, parts, hb, ha⟩ := trimmed_between s.toList
  have nothing : trimmed s.toList = [] := by
    simpa [trim] using congrArg String.toList h
  rw [parts, nothing, List.append_nil]
  intro c hc
  exact (List.mem_append.mp hc).elim (hb c) (ha c)

theorem content?_eq_some {s : Option String} {text : String} :
    content? s = some text ↔ (∃ given, s = some given ∧ trim given = text) ∧ text ≠ "" := by
  simp [content?, Option.filter_eq_some_iff]

end BoundSql.Text
