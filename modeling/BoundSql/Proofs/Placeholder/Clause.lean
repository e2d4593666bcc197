import BoundSql.Proofs.Placeholder.Rendering
import BoundSql.Proofs.Placeholder.Written
import BoundSql.Proofs.Query

/-! The clauses of a query as phrases: conditions, pages, joins and the source of the rows. -/
namespace BoundSql
open Outcome Statement

theorem term_eq (keyword : String) (n : Option UInt64) :
    Page.term keyword n = led (keyworded keyword (n.map fun n => Text.ofNat n.toNat)) := by
  cases n <;> simp [Page.term, keyworded, led, String.append_assoc]

theorem clause_eq (page : Page) (pageSize : UInt64) :
    page.clause pageSize = led (page.phrases pageSize) := by
  rw [Page.clause, Page.phrases, led_append, term_eq, term_eq]

theorem Page.inert_phrases (page : Page) (pageSize : UInt64) :
    ∀ phrase ∈ page.phrases pageSize, Inert phrase := by
  have numbers : ∀ n : Option UInt64, ∀ text ∈ n.map fun n => Text.ofNat n.toNat, Inert text := by
    intro n
    cases n with
    | none => exact fun _ h => nomatch h
    | some m =>
        rintro _ ⟨⟩
        exact inert_ofNat m.toNat
  exact List.forall_mem_append.mpr ⟨inert_keyworded (by decide) (numbers _),
    inert_keyworded (by decide) (numbers _)⟩

namespace Operator

/-- A placeholder for each bound value, where the written form has the value. -/
theorem operand_renders {op : Operator} {value : Value} (h : op.fits value) :
    Renders ⟨op.operand (fun _ => "?") value, op.bound value⟩
      (op.operand Value.literal value) := by
  have one : ∀ v : Value, Renders ⟨" " ++ "?", [v]⟩ (" " ++ v.literal) := fun v =>
    (Renders.raw (by decide : Inert " ")).append (.placeholder v)
  obtain ⟨-, bound, operand⟩ | ⟨-, item, items, bound, operand⟩ |
    ⟨-, low, high, bound, operand⟩ | ⟨-, -, -, bound, operand⟩ := operand_cases h
  all_goals rw [bound, operand, operand]
  · exact .raw (by decide : Inert "")
  · exact (Renders.values (item :: items)).between (by decide : Inert " (")
      (by decide : Inert ")")
  · exact ((one low).append (.raw (by decide : Inert " AND "))).append (.placeholder high)
  · exact one value

end Operator

namespace Condition

theorem comparison_renders {c : Comparison} {part : Statement} (h : c.compile = .ok part) :
    part.Renders c.written := by
  obtain ⟨column, op, parsed, fits, rfl⟩ := Comparison.compile_ok.mp h
  have name : Inert (c.field ++ " " ++ op.sql) := by
    refine ((inert_of_isColumn column).append (by decide)).append ?_
    cases op <;> decide
  rw [Comparison.written_of_parse parsed]
  exact (Renders.raw name).append (Operator.operand_renders fits)

theorem compile_renders {condition : Condition} {part : Statement}
    (h : condition.compile = .ok part) : part.Renders condition.written := by
  induction condition using induct generalizing part with
  | comparison c =>
      rw [compile_comparison] at h
      rw [written]
      exact comparison_renders h
  | group connective members ih =>
      obtain ⟨parts, shown, rfl⟩ := compile_group_ok h
      have each : List.Forall₂ Renders parts ((members.filter live).map written) := by
        rw [List.forall₂_map_right_iff]
        have inside : ∀ m ∈ members.filter live, m ∈ members :=
          fun m hm => (List.mem_filter.mp hm).1
        refine List.Forall₂.flip ?_
        exact ((List.forall₂_and_left _ _).mpr ⟨inside, shown⟩).imp
          fun m p hp => ih m hp.1 hp.2.compiled
      rw [written, writtenAll_eq]
      generalize (members.filter live).map written = texts at each ⊢
      cases each with
      | nil => exact .raw (by decide)
      | cons first rest =>
          have separator : Inert (" " ++ (connective.getD .and).sql ++ " ") := by
            cases connective.getD .and <;> decide
          exact ((Renders.raw (by decide : Inert "(")).append
            (.joined separator (.cons first rest))).append (.raw (by decide : Inert ")"))

theorem whereClause_renders {filter : Option Condition} {part : Statement}
    (h : whereClause filter = .ok part) : part.Renders (led (wherePhrases filter)) := by
  obtain ⟨absent, rfl⟩ | ⟨condition, fragment, given, compiled, rfl⟩ := whereClause_ok h
  · rw [wherePhrases, absent]
    exact .raw (by decide)
  · rw [wherePhrases, given]
    have text : led (keyworded "WHERE" ((some condition).map written)) =
        " WHERE " ++ condition.written := by
      rw [← String.toList_inj]
      simp [keyworded, led]
    rw [text]
    exact (Renders.raw (by decide)).append (compile_renders compiled)

end Condition

namespace Join
variable {j : Join} {text : String}

theorem compile_phrases (h : j.compile = .ok text) : text = spaced j.phrases := by
  have head : j.kind.sql ++ " JOIN " ++ j.table ++ aliasText j.label =
      spaced ([j.kind.sql, "JOIN", j.table] ++ keyworded "AS" j.label) := by
    rw [aliasText_eq, spaced_led (by simp), spaced_cons, ← String.toList_inj]
    simp [led]
  obtain ⟨-, -, h⟩ := compile_ok.mp h
  unfold phrases
  split at h
  · rename_i cross
    rw [if_pos cross, List.append_nil, ← head]
    exact h.symm
  · rename_i other
    obtain ⟨on, given, rfl⟩ := h
    rw [if_neg other, given, spaced_led (by simp), ← head, ← String.toList_inj]
    simp [keyworded, led]

theorem inert_phrases (h : j.compile = .ok text) (on : ∀ given ∈ j.on, Inert given) :
    ∀ phrase ∈ j.phrases, Inert phrase := by
  obtain ⟨table, label, -⟩ := compile_ok.mp h
  have kind : Inert j.kind.sql := by cases j.kind <;> decide
  have first : ∀ phrase ∈ [j.kind.sql, "JOIN", j.table], Inert phrase := by
    simpa using ⟨kind, by decide, inert_of_isIdentifier table⟩
  have second := inert_keyworded (by decide : Inert "AS") fun name hn =>
    inert_of_isIdentifier (label name hn)
  refine List.forall_mem_append.mpr ⟨List.forall_mem_append.mpr ⟨first, second⟩, ?_⟩
  split
  · exact List.forall_mem_nil _
  · exact inert_keyworded (by decide) fun kept hk => Inert.content on hk

end Join

namespace Query

theorem joinTexts_phrases {joins : List Join} {text : String} (h : joinTexts joins = .ok text)
    (on : ∀ given ∈ joins.filterMap Join.on, Inert given) :
    text = led (joins.flatMap Join.phrases) ∧
      ∀ phrase ∈ joins.flatMap Join.phrases, Inert phrase := by
  induction joins generalizing text with
  | nil =>
      cases h
      exact ⟨rfl, List.forall_mem_nil _⟩
  | cons j rest ih =>
      rw [joinTexts] at h
      obtain ⟨first, hfirst, h⟩ := bind_ok.mp h
      obtain ⟨later, hlater, h⟩ := bind_ok.mp h
      cases pure_ok.mp h
      obtain ⟨onFirst, onLater⟩ := Join.forall_on_cons.mp on
      obtain ⟨rfl, inert⟩ := ih hlater onLater
      rw [List.flatMap_cons, led_append, Join.compile_phrases hfirst]
      refine ⟨?_, List.forall_mem_append.mpr ⟨Join.inert_phrases hfirst onFirst, inert⟩⟩
      have opened : led j.phrases = " " ++ spaced j.phrases := by
        simp [Join.phrases, spaced_cons, led, String.append_assoc]
      rw [opened]

theorem sourceClause_renders {q : Query} {source : Statement} (h : q.sourceClause = .ok source)
    (on : ∀ given ∈ q.joins.filterMap Join.on, Inert given) :
    source.Renders (led q.sourcePhrases) := by
  obtain ⟨table, label, joins, hjoins, filter, hfilter, rfl⟩ := sourceClause_ok.mp h
  obtain ⟨rfl, inert⟩ := joinTexts_phrases hjoins on
  have plain : ∀ phrase ∈ ["FROM", q.source] ++ keyworded "AS" q.label ++
      q.joins.flatMap Join.phrases, Inert phrase := by
    refine List.forall_mem_append.mpr ⟨List.forall_mem_append.mpr ⟨?_, ?_⟩, inert⟩
    · simpa using ⟨by decide, inert_of_isIdentifier table⟩
    · exact inert_keyworded (by decide) fun name hn => inert_of_isIdentifier (label name hn)
  have text : " FROM " ++ q.source ++ Join.aliasText q.label ++
      led (q.joins.flatMap Join.phrases) =
      led (["FROM", q.source] ++ keyworded "AS" q.label ++ q.joins.flatMap Join.phrases) := by
    rw [aliasText_eq, led_append, led_append, ← String.toList_inj]
    simp [led]
  rw [text, sourcePhrases, led_append _ (Condition.wherePhrases q.filter)]
  exact (Renders.raw (inert_led plain)).append (Condition.whereClause_renders hfilter)

end Query

end BoundSql
