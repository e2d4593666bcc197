import BoundSql.Proofs.Placeholder.Rendering
import BoundSql.Query.Select

/-! Texts as phrases with single spaces between them, and the clauses of a query as phrases. -/
namespace BoundSql
open Statement

/-- Phrases with a space between each two. -/
def spaced (phrases : List String) : String := " ".intercalate phrases

/-- A keyword and a text, or nothing. -/
def keyworded (keyword : String) : Option String → List String
  | none => []
  | some text => [keyword, text]

/-- Terms with commas between them, if there are terms. -/
def listed : List String → Option String
  | [] => none
  | terms => some (", ".intercalate terms)

/-- Phrases with a space before each one. -/
def led : List String → String
  | [] => ""
  | phrase :: rest => " " ++ phrase ++ led rest

/-- Phrases with a space after each one. -/
def trailed : List String → String
  | [] => ""
  | phrase :: rest => phrase ++ " " ++ trailed rest

theorem led_append (a b : List String) : led (a ++ b) = led a ++ led b := by
  induction a with
  | nil => simp [led]
  | cons phrase rest ih => simp only [List.cons_append, led, ih, String.append_assoc]

theorem spaced_cons (phrase : String) (rest : List String) :
    spaced (phrase :: rest) = phrase ++ led rest := by
  induction rest generalizing phrase with
  | nil => simp [spaced, led]
  | cons next more ih =>
      rw [led, spaced, String.intercalate_cons_cons, ← spaced, ih]
      simp only [String.append_assoc]

theorem spaced_led {a : List String} (h : a ≠ []) (b : List String) :
    spaced (a ++ b) = spaced a ++ led b := by
  cases a with
  | nil => exact absurd rfl h
  | cons phrase rest =>
      rw [List.cons_append, spaced_cons, spaced_cons, led_append, String.append_assoc]

theorem trailed_spaced (before : List String) {a : List String} (h : a ≠ []) :
    spaced (before ++ a) = trailed before ++ spaced a := by
  induction before with
  | nil => simp [trailed]
  | cons phrase rest ih =>
      rw [List.cons_append, trailed, String.append_assoc, ← ih, spaced,
        String.intercalate_cons_of_ne_nil (by simp [h]), ← spaced]

theorem inert_led {phrases : List String} (h : ∀ phrase ∈ phrases, Inert phrase) :
    Inert (led phrases) := by
  induction phrases with
  | nil => decide
  | cons phrase rest ih =>
      have hrest := ih fun p hp => h p (List.mem_cons_of_mem phrase hp)
      exact (Inert.append (by decide) (h phrase List.mem_cons_self)).append hrest

theorem inert_spaced {phrases : List String} (h : ∀ phrase ∈ phrases, Inert phrase) :
    Inert (spaced phrases) :=
  Inert.intercalate (by decide) h

theorem inert_keyworded {keyword : String} (hk : Inert keyword) {text : Option String}
    (ht : ∀ t ∈ text, Inert t) : ∀ phrase ∈ keyworded keyword text, Inert phrase := by
  cases text with
  | none => exact List.forall_mem_nil _
  | some t => simpa [keyworded] using ⟨hk, ht t rfl⟩

theorem textClause_eq (keyword : String) (text : Option String) :
    Query.textClause keyword text = led (keyworded keyword (Text.content? text)) := by
  unfold Query.textClause
  cases Text.content? text <;> simp [keyworded, led, String.append_assoc]

theorem listClause_eq (keyword : String) (terms : List String) :
    Query.listClause keyword terms = led (keyworded keyword (listed terms)) := by
  cases terms <;> simp [Query.listClause, listed, keyworded, led, String.append_assoc]

theorem aliasText_eq (label : Option String) :
    Join.aliasText label = led (keyworded "AS" label) := by
  cases label with
  | none => rfl
  | some name =>
      rw [← String.toList_inj]
      simp [Join.aliasText, keyworded, led]

end BoundSql
