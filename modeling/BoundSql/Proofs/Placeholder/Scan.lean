import BoundSql.Proofs.Name
import BoundSql.Proofs.Statement
import BoundSql.Text.Blank

/-! The scan of a statement's text for placeholders, taken part by part, and the text that it
becomes when its arguments are written in. -/
namespace BoundSql.Statement

/-- Whether the end of a text lies inside a literal, given whether its beginning does. -/
def endsInside (inside : Bool) : List Char → Bool
  | [] => inside
  | c :: rest => endsInside (if c = '\'' then !inside else inside) rest

/-- A text with its placeholders replaced by texts in turn. What is put in is not scanned
again. -/
def fill (inside : Bool) : List Char → List String → List Char
  | [], _ => []
  | c :: rest, texts =>
    if c = '\'' then c :: fill (!inside) rest texts
    else if c = '?' && !inside then
      match texts with
      | [] => c :: fill inside rest []
      | text :: later => text.toList ++ fill inside rest later
    else c :: fill inside rest texts

/-- The text of a statement with each placeholder replaced by the literal of its argument. -/
def filled (s : Statement) : String :=
  String.ofList (fill false s.sql.toList (s.args.map Value.literal))

/-- A text that closes its literals and has no placeholder outside them. -/
def Inert (text : String) : Prop :=
  endsInside false text.toList = false ∧ placeholders false text.toList = 0

instance (text : String) : Decidable (Inert text) := inferInstanceAs (Decidable (_ ∧ _))

/-- A character that the scan passes over without notice. -/
def Plain (c : Char) : Prop := c ≠ '\'' ∧ c ≠ '?'

section Lists
variable (inside : Bool) (a b : List Char)

theorem endsInside_append :
    endsInside inside (a ++ b) = endsInside (endsInside inside a) b := by
  induction a generalizing inside with
  | nil => rfl
  | cons c rest ih => exact ih _

theorem placeholders_append :
    placeholders inside (a ++ b) =
      placeholders inside a + placeholders (endsInside inside a) b := by
  induction a generalizing inside with
  | nil => simp [placeholders, endsInside]
  | cons c rest ih =>
      simp only [List.cons_append, placeholders, endsInside]
      split
      · exact ih _
      · split
        · rw [ih]; omega
        · exact ih _

/-- Filling a text part by part, each part with as many texts as it has placeholders. -/
theorem fill_append {texts : List String} (count : placeholders inside a = texts.length)
    (later : List String) :
    fill inside (a ++ b) (texts ++ later) =
      fill inside a texts ++ fill (endsInside inside a) b later := by
  induction a generalizing inside texts with
  | nil =>
      cases texts with
      | nil => rfl
      | cons text rest => simp [placeholders] at count
  | cons c rest ih =>
      simp only [placeholders] at count
      simp only [List.cons_append, fill, endsInside]
      split at count
      · rename_i quote
        simp only [if_pos quote, List.cons_append, ih _ count]
      · rename_i quote
        simp only [if_neg quote]
        split at count
        · rename_i mark
          cases texts with
          | nil => simp at count
          | cons text more =>
              have count := Nat.succ.inj count
              simp only [if_pos mark, List.cons_append, ih _ count, List.append_assoc]
        · rename_i mark
          simp only [if_neg mark, List.cons_append, ih _ count]

end Lists

section Plain
variable {cs : List Char} (h : ∀ c ∈ cs, Plain c) (inside : Bool)
include h

theorem endsInside_plain : endsInside inside cs = inside := by
  induction cs with
  | nil => rfl
  | cons c rest ih =>
      have hc := h c List.mem_cons_self
      rw [endsInside, if_neg hc.1]
      exact ih fun d hd => h d (List.mem_cons_of_mem c hd)

theorem placeholders_plain : placeholders inside cs = 0 := by
  induction cs with
  | nil => rfl
  | cons c rest ih =>
      have hc := h c List.mem_cons_self
      rw [placeholders, if_neg hc.1, if_neg (by simp [hc.2])]
      exact ih fun d hd => h d (List.mem_cons_of_mem c hd)

end Plain

theorem fill_bare {inside : Bool} {cs : List Char} (h : placeholders inside cs = 0) :
    fill inside cs [] = cs := by
  induction cs generalizing inside with
  | nil => rfl
  | cons c rest ih =>
      simp only [placeholders] at h
      split at h
      · rename_i quote
        rw [fill, if_pos quote, ih h]
      · rename_i quote
        split at h
        · simp at h
        · rename_i mark
          rw [fill, if_neg quote, if_neg mark, ih h]

end BoundSql.Statement
