import BoundSql.Proofs.Condition
import BoundSql.Proofs.Shape.Held
import BoundSql.Shape.Condition

/-! Conditions in documents, and what becomes of their members. A group is read member by member.
A comparison may list members too, and those are passed over. -/
namespace BoundSql.Shape
open Node Outcome

def items : Node → List Node
  | .list items => items
  | _ => []

/-- The members that a condition lists, whether or not it is read as a group. -/
def nested : Node → List Node
  | .table entries =>
    (entries.filter fun entry => ["nested"].contains entry.1).flatMap fun entry => items entry.2
  | .list fields => fields[groupNames.idxOf ["nested"]]?.elim [] items
  | _ => []

variable {n : Node} {c : Condition}

theorem mem_nested {m : Node} (h : m ∈ nested n) :
    ∃ members, Holds groupNames ["nested"] n (.list members) ∧ m ∈ members := by
  have listed : ∀ {k : Node}, m ∈ items k → ∃ members, k = .list members ∧ m ∈ members := by
    intro k mem
    cases k with
    | list members => exact ⟨members, rfl, mem⟩
    | _ => cases mem
  cases n with
  | table entries =>
      obtain ⟨⟨key, k⟩, found, mem⟩ := List.mem_flatMap.mp h
      obtain ⟨members, rfl, among⟩ := listed mem
      obtain ⟨entry, named⟩ := List.mem_filter.mp found
      exact ⟨members, .key (List.contains_iff_mem.mp named) entry, among⟩
  | list fields =>
      cases second : fields[groupNames.idxOf ["nested"]]? with
      | none => simp [nested, second] at h
      | some k =>
          obtain ⟨members, rfl, among⟩ := listed (k := k) (by simpa [nested, second] using h)
          exact ⟨members, .element second, among⟩
  | _ => cases h

theorem depth_lt_nested : ∀ m ∈ nested n, m.depth + 1 < n.depth := by
  intro m hm
  obtain ⟨members, held, mem⟩ := mem_nested hm
  have inside := depth_lt_list m mem
  have outside := held.depth_lt
  omega

theorem isReadable_nested (whole : n.isReadable) : ∀ m ∈ nested n, m.isReadable := by
  intro m hm
  obtain ⟨members, held, mem⟩ := mem_nested hm
  exact isReadable_list.mp (held.isReadable whole) m mem

/-- The comparisons that can be reached through the members that conditions list, from left to
right. -/
def comparisonsIn (n : Node) : List Comparison :=
  (comparison? n).toList ++ (nested n).attach.flatMap fun m => comparisonsIn m.1
termination_by n.depth
decreasing_by
  have deeper := depth_lt_nested m.1 m.2
  omega

theorem comparisonsIn_eq (n : Node) :
    comparisonsIn n = (comparison? n).toList ++ (nested n).flatMap comparisonsIn := by
  rw [comparisonsIn, List.flatMap_subtype (g := comparisonsIn) fun _ _ => rfl,
    List.unattach_attach]

/-- That no comparison lists members with further comparisons, at any depth. -/
inductive Unmixed : Node → Prop
  | comparison {n : Node} {c : Comparison} (is : comparison? n = some c)
      (alone : (nested n).flatMap comparisonsIn = []) : Unmixed n
  | group {n : Node} (is : comparison? n = none) (each : ∀ m ∈ nested n, Unmixed m) : Unmixed n

theorem nested_eq {connective members : Option Node}
    (read : fields? false groupNames n = some [connective, members]) :
    nested n = members.elim [] items := by
  unfold fields? at read
  split at read
  · rename_i entries
    cases mapM_some.mp read with
    | cons _ later =>
        cases later with
        | cons field _ =>
            obtain ⟨absent, rfl⟩ | ⟨entry, one, rfl⟩ := field?_some field
            · rw [nested, absent]
              rfl
            · rw [nested, one]
              exact List.flatMap_singleton _ _
  · split at read
    · cases read
      rfl
    · cases read
  · cases read

theorem conditionWithin_some {depth : Nat} :
    conditionWithin (depth + 1) n = some c ↔
      (∃ x, comparison? n = some x ∧ .comparison x = c) ∨
      comparison? n = none ∧ ∃ first second connective members,
        fields? false groupNames n = some [first, second] ∧
        optional connective? first = some connective ∧
        orElse [] (listOf (conditionWithin depth)) second = some members ∧
        isClosed groupNames n ∧ .group connective members = c := by
  rw [conditionWithin]
  cases is : comparison? n with
  | some x => simp
  | none =>
      simp only [reduceCtorEq, false_and, exists_false, false_or, true_and]
      split
      · rename_i first second read
        simp [read, Option.bind_eq_some_iff]
      · rename_i other
        refine iff_of_false nofun ?_
        rintro ⟨first, second, -, -, read, -⟩
        exact other first second read

/-- A bound on the depth that a condition stays below does not tell. -/
theorem conditionWithin_deeper {depth bound : Nat} (h : conditionWithin depth n = some c)
    (room : n.depth < bound) : conditionWithin bound n = some c := by
  induction depth generalizing n c bound with
  | zero => cases h
  | succ depth ih =>
      obtain ⟨bound, rfl⟩ := Nat.exists_eq_succ_of_ne_zero (Nat.ne_zero_of_lt room)
      rw [conditionWithin_some] at h ⊢
      refine h.imp_right ?_
      rintro ⟨is, first, second, connective, members, read, connectives, listed, rest⟩
      refine ⟨is, first, second, connective, members, read, connectives, ?_, rest⟩
      rw [orElse_listOf] at listed ⊢
      refine listed.imp_right ?_
      rintro ⟨ks, rfl, each⟩
      -- A member lies two levels deeper, so one less is room enough for it.
      have inside : ∀ m ∈ ks, m.depth < bound := by
        intro m hm
        have deeper := depth_lt_nested m (by rwa [nested_eq read])
        omega
      exact ⟨ks, rfl, forall₂_imp_mem each fun m hm x read => ih read (inside m hm)⟩

/-- What a condition is read as: a comparison, if it is one, and else a group of what its members
are read as. -/
theorem condition?_cases (h : condition? n = some c) :
    (∃ x, comparison? n = some x ∧ .comparison x = c) ∨
      comparison? n = none ∧ isClosed groupNames n ∧ ∃ connective members,
        .group connective members = c ∧
        List.Forall₂ (fun m x => condition? m = some x) (nested n) members := by
  obtain ⟨readable, h⟩ := Option.ite_none_right_eq_some.mp h
  refine (conditionWithin_some.mp h).imp_right ?_
  rintro ⟨is, first, second, connective, members, read, -, listed, closed, rfl⟩
  refine ⟨is, closed, connective, members, rfl, ?_⟩
  have readables := isReadable_nested readable
  rw [nested_eq read] at readables ⊢
  obtain ⟨rfl, rfl⟩ | ⟨ks, rfl, each⟩ := orElse_listOf.mp listed
  · exact .nil
  · refine forall₂_imp_mem each fun m hm x read => ?_
    rw [condition?, if_pos (readables m hm)]
    exact conditionWithin_deeper read (Nat.lt_succ_self _)

/-- Whatever is read as a condition is read as the group of its members, and has no keys but those
of a group, exactly if it is no comparison. -/
theorem isGroup_iff (h : condition? n = some c) :
    (isClosed groupNames n ∧ ∃ connective members, c = .group connective members ∧
      List.Forall₂ (fun m x => condition? m = some x) (nested n) members) ↔
      comparison? n = none := by
  obtain ⟨x, is, rfl⟩ | ⟨is, closed, connective, members, rfl, each⟩ := condition?_cases h
  · rw [is]
    refine iff_of_false ?_ nofun
    rintro ⟨-, connective, members, same, -⟩
    cases same
  · exact iff_of_true ⟨closed, connective, members, rfl, each⟩ is

section Lists
variable {α β γ : Type} {f : α → List γ} {g : β → List γ} {xs : List α} {ys : List β}

theorem flatMap_sublist (h : List.Forall₂ (fun x y => (g y).Sublist (f x)) xs ys) :
    (ys.flatMap g).Sublist (xs.flatMap f) := by
  induction h with
  | nil => exact List.Sublist.refl []
  | cons first _ ih =>
      rw [List.flatMap_cons, List.flatMap_cons]
      exact first.append ih

/-- Parts of lists that make up as much as these do are the whole lists. -/
theorem flatMap_eq_iff (h : List.Forall₂ (fun x y => (g y).Sublist (f x)) xs ys) :
    ys.flatMap g = xs.flatMap f ↔ List.Forall₂ (fun x y => g y = f x) xs ys := by
  induction h with
  | nil => simp
  | cons first rest ih =>
      rw [List.flatMap_cons, List.flatMap_cons, List.forall₂_cons, ← ih]
      constructor
      · intro same
        -- Neither part is longer than its whole, so each has the size of that.
        have size := congrArg List.length same
        have later := (flatMap_sublist rest).length_le
        rw [List.length_append, List.length_append] at size
        exact List.append_inj same (first.eq_of_length_le (by omega) ▸ rfl)
      · rintro ⟨here, there⟩
        rw [here, there]

end Lists

theorem comparisons_sublist (h : condition? n = some c) :
    c.comparisons.Sublist (comparisonsIn n) := by
  induction n using comparisonsIn.induct generalizing c with
  | case1 n ih =>
      rw [comparisonsIn_eq]
      obtain ⟨x, is, rfl⟩ | ⟨is, -, connective, members, rfl, each⟩ := condition?_cases h
      · rw [is]
        exact List.sublist_append_left [x] _
      · rw [is, Condition.comparisons_group]
        exact flatMap_sublist (forall₂_imp_mem each fun m hm x read => ih ⟨m, hm⟩ read)

/-- All comparisons in a condition are read exactly if none of them is passed over in another. -/
theorem comparisons_eq_iff (h : condition? n = some c) :
    c.comparisons = comparisonsIn n ↔ Unmixed n := by
  induction n using comparisonsIn.induct generalizing c with
  | case1 n ih =>
      rw [comparisonsIn_eq]
      obtain ⟨x, is, rfl⟩ | ⟨is, -, connective, members, rfl, each⟩ := condition?_cases h
      · have alone : [x] = [x] ++ (nested n).flatMap comparisonsIn ↔
            (nested n).flatMap comparisonsIn = [] := by simp
        rw [is]
        refine alone.trans ⟨.comparison is, ?_⟩
        rintro (⟨-, empty⟩ | ⟨other, -⟩)
        · exact empty
        · cases is.symm.trans other
      · have told : List.Forall₂ (fun m x => x.comparisons = comparisonsIn m ↔ Unmixed m)
            (nested n) members := forall₂_imp_mem each fun m hm x read => ih ⟨m, hm⟩ read
        rw [is, Condition.comparisons_group]
        refine (flatMap_eq_iff (each.imp fun m x => comparisons_sublist)).trans ⟨?_, ?_⟩
        · intro same
          refine .group is fun m hm => ?_
          obtain ⟨x, -, unmixed⟩ := exists_right (told.mp (fun m x iff => iff.mp) same) hm
          exact unmixed
        · rintro (⟨comparison, -⟩ | ⟨-, inside⟩)
          · cases is.symm.trans comparison
          · exact forall₂_imp_mem told fun m hm x iff => iff.mpr (inside m hm)

/-- The comparisons that are read from a filter, which may also be null. -/
theorem filter_comparisons {filter : Option Condition}
    (h : optional condition? (some n) = some filter) :
    (filter.elim [] Condition.comparisons).Sublist (comparisonsIn n) ∧
      (filter.elim [] Condition.comparisons = comparisonsIn n ↔ Unmixed n) := by
  obtain ⟨rfl, rfl⟩ | ⟨-, c, read, rfl⟩ := optional_some.mp h
  · have nothing : comparisonsIn .null = [] := comparisonsIn_eq .null
    have unmixed : Unmixed .null := .group rfl nofun
    rw [nothing]
    exact ⟨.refl [], iff_of_true rfl unmixed⟩
  · exact ⟨comparisons_sublist read, comparisons_eq_iff read⟩

end BoundSql.Shape
