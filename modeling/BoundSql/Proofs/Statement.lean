import BoundSql.Statement

/-! Texts and arguments of statements that are put together. -/
namespace BoundSql.Statement

@[simp] theorem sql_append (a b : Statement) : (a ++ b).sql = a.sql ++ b.sql := rfl

@[simp] theorem args_append (a b : Statement) : (a ++ b).args = a.args ++ b.args := rfl

@[simp] theorem sql_raw (text : String) : (raw text).sql = text := rfl

@[simp] theorem args_raw (text : String) : (raw text).args = [] := rfl

theorem ext_iff {a b : Statement} : a = b ↔ a.sql = b.sql ∧ a.args = b.args := by
  cases a
  cases b
  simp

theorem raw_append_cancel {a b : String} {s : Statement} (h : raw a ++ s = raw b ++ s) :
    a = b := by
  simpa using congrArg sql h

theorem append_raw_cancel {a b : String} {s : Statement} (h : s ++ raw a = s ++ raw b) :
    a = b := by
  simpa using congrArg sql h

/-- A statement between two texts binds what the statement binds. -/
theorem raw_around (before after : String) (s : Statement) :
    raw before ++ s ++ raw after = ⟨before ++ s.sql ++ after, s.args⟩ := by
  simp [ext_iff]

/-- Parts that bind one value each, after one another. -/
theorem joined_singles {α : Type} (separator : String) (text : α → String) (value : α → Value)
    (xs : List α) :
    joined separator (xs.map fun x => ⟨text x, [value x]⟩) =
      ⟨separator.intercalate (xs.map text), xs.map value⟩ := by
  rw [joined, List.map_map, List.flatMap_map, List.map_eq_flatMap (f := value)]
  rfl

theorem joined_singleton (separator : String) (part : Statement) :
    joined separator [part] = part := by
  simp [joined]

theorem joined_cons (separator : String) (part next : Statement) (rest : List Statement) :
    joined separator (part :: next :: rest) =
      part ++ .raw separator ++ joined separator (next :: rest) := by
  simp [joined, ext_iff]

/-- That a statement stands in another one, with its arguments at their place among those. -/
def StandsIn (part whole : Statement) : Prop := ∃ before after, whole = before ++ part ++ after

section StandsIn
variable {part a b : Statement}

theorem StandsIn.refl (s : Statement) : s.StandsIn s :=
  ⟨raw "", raw "", by simp [ext_iff]⟩

theorem StandsIn.before (h : part.StandsIn a) (b : Statement) : part.StandsIn (a ++ b) := by
  obtain ⟨before, after, rfl⟩ := h
  exact ⟨before, after ++ b, by simp [ext_iff, String.append_assoc]⟩

theorem StandsIn.after (h : part.StandsIn b) (a : Statement) : part.StandsIn (a ++ b) := by
  obtain ⟨before, after, rfl⟩ := h
  exact ⟨a ++ before, after, by simp [ext_iff, String.append_assoc]⟩

theorem StandsIn.trans (first : part.StandsIn a) (second : a.StandsIn b) : part.StandsIn b := by
  obtain ⟨before, after, rfl⟩ := second
  exact (first.after before).before after

theorem standsIn_joined {separator : String} {parts : List Statement} (member : part ∈ parts) :
    part.StandsIn (joined separator parts) := by
  induction parts with
  | nil => cases member
  | cons first rest ih =>
      cases rest with
      | nil =>
          rw [List.mem_singleton.mp member, joined_singleton]
          exact .refl first
      | cons next more =>
          rw [joined_cons]
          cases member with
          | head => exact ((StandsIn.refl part).before _).before _
          | tail _ later => exact (ih later).after _

end StandsIn

end BoundSql.Statement
