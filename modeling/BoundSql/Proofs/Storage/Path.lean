import BoundSql.Proofs.Blank
import BoundSql.Proofs.Split
import BoundSql.Storage.Files
import Mathlib.Data.List.Basic

/-! Paths that are put together from names, and the names that are found in them. -/
namespace BoundSql.Path
open Text

/-- The path of names from the root, or from where one is. -/
def ofNames (absolute : Bool) (names : List String) : String :=
  (if absolute then "/" else "") ++ "/".intercalate names

/-- The name of a file or directory. -/
structure IsName (name : String) : Prop where
  present : name ≠ ""
  undivided : '/' ∉ name.toList
  unended : '\x00' ∉ name.toList
  here : name ≠ "."
  above : name ≠ ".."
  short : name.utf8ByteSize ≤ Files.nameLimit

instance (name : String) : Decidable (IsName name) :=
  decidable_of_iff
    (name ≠ "" ∧ '/' ∉ name.toList ∧ '\x00' ∉ name.toList ∧ name ≠ "." ∧ name ≠ ".." ∧
      name.utf8ByteSize ≤ Files.nameLimit)
    ⟨fun ⟨present, undivided, unended, here, above, short⟩ =>
        ⟨present, undivided, unended, here, above, short⟩,
      fun h => ⟨h.present, h.undivided, h.unended, h.here, h.above, h.short⟩⟩

variable {names : List String}

theorem toList_ofNames (absolute : Bool) (names : List String) :
    (ofNames absolute names).toList =
      (if absolute then ['/'] else []) ++ ['/'].intercalate (names.map String.toList) := by
  rw [ofNames, String.toList_append, String.toList_intercalate]
  cases absolute <;> rfl

theorem filter_cut (plain : ∀ name ∈ names, IsName name) :
    ((cut '/' (['/'].intercalate (names.map String.toList))).map String.ofList).filter (· ≠ "") =
      names := by
  obtain rfl | present := eq_or_ne names []
  · rfl
  · have free : ∀ name ∈ names.map String.toList, '/' ∉ name :=
      List.forall_mem_map.mpr fun name mem => (plain name mem).undivided
    have same : String.ofList ∘ String.toList = id := funext fun _ => String.ofList_toList
    rw [cut_intercalate (List.map_eq_nil_iff.not.mpr present) free, List.map_map, same, List.map_id,
      List.filter_eq_self]
    exact fun name mem => decide_eq_true (plain name mem).present

theorem names_ofNames (absolute : Bool) (plain : ∀ name ∈ names, IsName name) :
    Path.names (ofNames absolute names) = names := by
  rw [Path.names, split_eq, toList_ofNames]
  cases absolute with
  | false => exact filter_cut plain
  | true => exact filter_cut plain

theorem components_ofNames (absolute : Bool) (plain : ∀ name ∈ names, IsName name) :
    components (ofNames absolute names) = names := by
  rw [components, names_ofNames absolute plain]
  cases names with
  | nil => rfl
  | cons first rest =>
      obtain ⟨start, later⟩ := List.forall_mem_cons.mp plain
      have kept : rest.filter (· ≠ ".") = rest :=
        List.filter_eq_self.mpr fun name mem => decide_eq_true (later name mem).here
      simp only [kept, start.here, decide_false, Bool.false_and, Bool.false_eq_true, if_false]

/-- A path begins with a slash only if it starts at the root. -/
theorem isAbsolute_ofNames (absolute : Bool) (plain : ∀ name ∈ names, IsName name) :
    isAbsolute (ofNames absolute names) = absolute := by
  rw [isAbsolute, toList_ofNames]
  cases absolute with
  | true => rfl
  | false =>
      cases names with
      | nil => rfl
      | cons first rest =>
          have start := plain first List.mem_cons_self
          obtain ⟨c, more, parted⟩ := List.exists_cons_of_ne_nil
            (mt String.toList_eq_nil_iff.mp start.present)
          have apart : c ≠ '/' := by
            rintro rfl
            exact start.undivided (by rw [parted]; exact List.mem_cons_self)
          cases rest <;> simp [parted, apart]

theorem parent?_ofNames (absolute : Bool) {last : String}
    (plain : ∀ name ∈ names ++ [last], IsName name) :
    parent? (ofNames absolute (names ++ [last])) = some (ofNames absolute names) := by
  have front : (names ++ [last]).dropLast = names := List.dropLast_concat
  rw [parent?, components_ofNames absolute plain, isAbsolute_ofNames absolute plain]
  cases names with
  | nil => rfl
  | cons first rest =>
      rw [List.cons_append] at front ⊢
      simp only [front, ofNames]

/-- A path of names ends with the last one. -/
theorem ofNames_concat (absolute : Bool) (names : List String) (last : String) :
    ∃ front, ofNames absolute (names ++ [last]) = front ++ last := by
  obtain rfl | present := eq_or_ne names []
  · exact ⟨_, rfl⟩
  · rw [ofNames, String.intercalate_append_of_ne_nil present (List.cons_ne_nil last []),
      String.intercalate_singleton, ← String.append_assoc]
    exact ⟨_, rfl⟩

/-- A path of names goes on from the path of those before the last one. -/
theorem ofNames_extends (absolute : Bool) (names : List String) (last : String) :
    ∃ more, ofNames absolute (names ++ [last]) = ofNames absolute names ++ more := by
  obtain rfl | present := eq_or_ne names []
  · exact ⟨last, by rw [ofNames, ofNames, String.append_assoc]; rfl⟩
  · rw [ofNames, String.intercalate_append_of_ne_nil present (List.cons_ne_nil last []),
      String.append_assoc, ← String.append_assoc, ← ofNames]
    exact ⟨_, rfl⟩

theorem utf8ByteSize_ofNames_le (absolute : Bool) (names : List String) (last : String) :
    (ofNames absolute names).utf8ByteSize ≤ (ofNames absolute (names ++ [last])).utf8ByteSize := by
  obtain ⟨more, longer⟩ := ofNames_extends absolute names last
  rw [longer, String.utf8ByteSize_append]
  exact Nat.le_add_right _ _

theorem present_ofNames (absolute : Bool) (names : List String) {last : String}
    (final : IsName last) : ofNames absolute (names ++ [last]) ≠ "" := by
  obtain ⟨front, parted⟩ := ofNames_concat absolute names last
  rw [parted, ne_eq, String.append_eq_empty_iff, not_and]
  exact fun _ => final.present

theorem unended_ofNames (absolute : Bool) (plain : ∀ name ∈ names, IsName name) :
    '\x00' ∉ (ofNames absolute names).toList := by
  have append : ∀ {a b : String},
      '\x00' ∉ a.toList → '\x00' ∉ b.toList → '\x00' ∉ (a ++ b).toList := by
    intro a b ha hb
    rw [String.toList_append, List.mem_append, not_or]
    exact ⟨ha, hb⟩
  have joined : '\x00' ∉ ("/".intercalate names).toList :=
    intercalate_induct (P := fun text => '\x00' ∉ text.toList) (by decide) append (by decide)
      fun name mem => (plain name mem).unended
  refine append ?_ joined
  cases absolute <;> decide

theorem steps_ofNames (absolute : Bool) {last : String}
    (plain : ∀ name ∈ names ++ [last], IsName name)
    (short : (ofNames absolute (names ++ [last])).utf8ByteSize ≤ Files.pathLimit) :
    Files.steps (ofNames absolute (names ++ [last])) = .ok (names ++ [last]) := by
  have final := plain last (List.mem_append_right _ (List.mem_singleton.mpr rfl))
  have inside : last.toList ≠ [] := mt String.toList_eq_nil_iff.mp final.present
  obtain ⟨front, parted⟩ := ofNames_concat absolute names last
  have unslashed : (ofNames absolute (names ++ [last])).toList.getLast? ≠ some '/' := by
    rw [parted, String.toList_append, List.getLast?_append_of_ne_nil _ inside]
    exact fun slash => final.undivided (List.mem_of_getLast? slash)
  have present := present_ofNames absolute names final
  have unended : (ofNames absolute (names ++ [last])).toList.contains '\x00' = false :=
    (List.contains_eq_mem _ _).trans (decide_eq_false (unended_ofNames absolute plain))
  have fits := decide_eq_false (Nat.not_lt.mpr short)
  simp only [Files.steps, names_ofNames absolute plain, if_neg present, unended, fits,
    if_neg unslashed, Bool.or_self, Bool.false_eq_true, if_false]

end BoundSql.Path
