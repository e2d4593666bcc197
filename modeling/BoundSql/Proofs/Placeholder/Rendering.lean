import BoundSql.Proofs.Blank
import BoundSql.Proofs.Digits
import BoundSql.Proofs.Placeholder.Scan

/-! Statements whose placeholders line up with their arguments. What lines up in the parts of a
statement lines up in the whole. -/
namespace BoundSql.Statement

theorem inert_of_plain {text : String} (h : ∀ c ∈ text.toList, Plain c) : Inert text :=
  ⟨endsInside_plain h false, placeholders_plain h false⟩

theorem inert_ofList {cs : List Char} (h : ∀ c ∈ cs, Plain c) : Inert (String.ofList cs) :=
  inert_of_plain (by rwa [String.toList_ofList])

theorem Inert.append {a b : String} (ha : Inert a) (hb : Inert b) : Inert (a ++ b) := by
  constructor
  · rw [String.toList_append, endsInside_append, ha.1, hb.1]
  · rw [String.toList_append, placeholders_append, ha.1, ha.2, hb.2]

theorem Inert.intercalate {separator : String} (hs : Inert separator) {texts : List String}
    (h : ∀ text ∈ texts, Inert text) : Inert (separator.intercalate texts) :=
  Text.intercalate_induct (by decide) Inert.append hs h

theorem plain_of_isBlank {c : Char} (h : Text.isBlank c) : Plain c := by
  constructor <;> rintro rfl <;> revert h <;> decide

theorem Inert.trim {text : String} (h : Inert text) : Inert (Text.trim text) := by
  obtain ⟨before, after, parts, hb, ha⟩ := Text.trimmed_between text.toList
  have hb := fun c hc => plain_of_isBlank (hb c hc)
  have ha := fun c hc => plain_of_isBlank (ha c hc)
  obtain ⟨closed, bare⟩ := h
  rw [parts, endsInside_append, endsInside_append, endsInside_plain hb,
    endsInside_plain ha] at closed
  rw [parts, placeholders_append, placeholders_append, endsInside_plain hb] at bare
  refine ⟨by rw [Text.trim, String.toList_ofList]; exact closed, ?_⟩
  rw [Text.trim, String.toList_ofList]
  omega

theorem Inert.content {text : Option String} (h : ∀ given ∈ text, Inert given) {kept : String}
    (hk : Text.content? text = some kept) : Inert kept := by
  obtain ⟨⟨given, rfl, rfl⟩, -⟩ := Text.content?_eq_some.mp hk
  exact (h given rfl).trim

theorem plain_of_isFollowing {c : Char} (h : Name.isFollowing c) : Plain c := by
  constructor <;> rintro rfl <;> revert h <;> decide

theorem plain_of_isDigit {c : Char} (h : c.isDigit) : Plain c := by
  constructor <;> rintro rfl <;> revert h <;> decide

theorem inert_ofNat (n : Nat) : Inert (Text.ofNat n) :=
  inert_ofList fun c hc => plain_of_isDigit (Text.isDigit_of_mem c hc)

theorem inert_of_isIdentifier {name : String} (h : Name.isIdentifier name.toList) : Inert name :=
  inert_of_plain fun c hc => plain_of_isFollowing (Name.following_of_isIdentifier h c hc)

theorem inert_of_isColumn {name : String} (h : Name.isColumn name.toList) : Inert name := by
  refine inert_of_plain fun c hc => ?_
  obtain hc | rfl := Name.characters_of_isColumn h c hc
  · exact plain_of_isFollowing hc
  · exact ⟨by decide, by decide⟩

/-- A statement that stands outside literals at its end, has a placeholder for each argument, and
reads as a text once the arguments are written in. -/
structure Renders (s : Statement) (text : String) : Prop where
  closed : endsInside false s.sql.toList = false
  count : s.placeholderCount = s.args.length
  filled : s.filled = text

namespace Renders

theorem raw {text : String} (h : Inert text) : (raw text).Renders text := by
  refine ⟨h.1, h.2, ?_⟩
  rw [Statement.filled, sql_raw, args_raw, List.map_nil, fill_bare h.2, String.ofList_toList]

theorem placeholder (v : Value) : Renders ⟨"?", [v]⟩ v.literal := by
  refine ⟨?_, ?_, ?_⟩
  · simp [endsInside]
  · simp [placeholderCount, placeholders]
  · simp [Statement.filled, fill]

theorem append {a b : Statement} {s t : String} (ha : a.Renders s) (hb : b.Renders t) :
    (a ++ b).Renders (s ++ t) := by
  have count : placeholders false a.sql.toList = (a.args.map Value.literal).length := by
    rw [List.length_map]
    exact ha.count
  refine ⟨?_, ?_, ?_⟩
  · rw [sql_append, String.toList_append, endsInside_append, ha.closed, hb.closed]
  · rw [placeholderCount, sql_append, String.toList_append, placeholders_append, ha.closed,
      args_append, List.length_append, ← ha.count, ← hb.count]
    rfl
  · rw [Statement.filled, sql_append, args_append, String.toList_append, List.map_append,
      fill_append _ _ _ count, ha.closed, String.ofList_append, ← ha.filled, ← hb.filled]
    rfl

theorem joined {separator : String} (hs : Inert separator) {parts : List Statement}
    {texts : List String} (h : List.Forall₂ Renders parts texts) :
    (joined separator parts).Renders (separator.intercalate texts) := by
  induction h with
  | nil => exact raw (by decide : Inert "")
  | @cons part text parts texts hpart hrest ih =>
      cases hrest with
      | nil => simpa [Statement.joined] using hpart
      | @cons next nextText more moreTexts hnext hmore =>
          rw [String.intercalate_cons_cons]
          have all := (hpart.append (raw hs)).append ih
          have same : Statement.joined separator (part :: next :: more) =
              part ++ Statement.raw separator ++ Statement.joined separator (next :: more) := by
            simp [ext_iff, Statement.joined, String.intercalate_cons_cons]
          rw [same]
          exact all

/-- A list of placeholders, one for each of some values. -/
theorem values (items : List Value) :
    Renders ⟨", ".intercalate (items.map fun _ => "?"), items⟩
      (", ".intercalate (items.map Value.literal)) := by
  have parts : List.Forall₂ Renders (items.map fun v => ⟨"?", [v]⟩) (items.map Value.literal) := by
    simp only [List.forall₂_map_left_iff, List.forall₂_map_right_iff, List.forall₂_same]
    exact fun v _ => .placeholder v
  have same := joined_singles ", " (fun _ => "?") (fun v : Value => v) items
  rw [List.map_id'] at same
  exact same ▸ Renders.joined (by decide : Inert ", ") parts

/-- A rendered part between two texts that bind nothing. -/
theorem between {before after : String} (hb : Inert before) (ha : Inert after) {s : Statement}
    {text : String} (h : s.Renders text) :
    Renders ⟨before ++ s.sql ++ after, s.args⟩ (before ++ text ++ after) := by
  have all := ((raw hb).append h).append (raw ha)
  rwa [raw_around] at all

end Renders
end BoundSql.Statement
