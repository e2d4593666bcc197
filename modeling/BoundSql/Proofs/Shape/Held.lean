import BoundSql.Proofs.Shape.Fields

/-! What stands in the fields of a record that has been read: it is a part of the record, less deep
than that, and readable if the whole is. -/
namespace BoundSql.Shape
open Node

/-- That a record, given by the names of all its fields, has a node in the field of some names. A
table has it under one of these names, and a list has it at the place of the field. -/
inductive Holds (all : List (List String)) (names : List String) : Node → Node → Prop
  | key {entries : List (String × Node)} {key : String} {n : Node} (named : key ∈ names)
      (listed : (key, n) ∈ entries) : Holds all names (.table entries) n
  | element {items : List Node} {n : Node} (listed : items[all.idxOf names]? = some n) :
      Holds all names (.list items) n

variable {all : List (List String)} {names : List String} {n m : Node}

theorem Holds.depth_lt (h : Holds all names n m) : m.depth < n.depth := by
  cases h with
  | @key _ key _ named listed => exact depth_lt_table (key, m) listed
  | element listed => exact depth_lt_list m (List.mem_of_getElem? listed)

theorem Holds.isReadable (h : Holds all names n m) (whole : n.isReadable) : m.isReadable := by
  cases h with
  | @key _ key _ named listed => exact isReadable_table.mp whole (key, m) listed
  | element listed => exact isReadable_list.mp whole m (List.mem_of_getElem? listed)

theorem field?_some {entries : List (String × Node)} {value : Option Node}
    (read : field? names entries = some value) :
    entries.filter (fun entry => names.contains entry.1) = [] ∧ value = none ∨
      ∃ entry, entries.filter (fun entry => names.contains entry.1) = [entry] ∧
        value = some entry.2 := by
  unfold field? at read
  split at read
  · rename_i absent
    cases read
    exact .inl ⟨absent, rfl⟩
  · rename_i entry one
    cases read
    exact .inr ⟨entry, one, rfl⟩
  · cases read

theorem field?_iff {entries : List (String × Node)} {value : Option Node}
    (read : field? names entries = some value) :
    value = some n ↔ ∃ key ∈ names, (key, n) ∈ entries := by
  have named : ∀ entry, entry ∈ entries.filter (fun entry => names.contains entry.1) ↔
      entry ∈ entries ∧ entry.1 ∈ names := by simp
  obtain ⟨absent, rfl⟩ | ⟨entry, one, rfl⟩ := field?_some read
  · refine iff_of_false nofun ?_
    rintro ⟨key, mem, listed⟩
    have found := (named (key, n)).mpr ⟨listed, mem⟩
    rw [absent] at found
    cases found
  · rw [one] at named
    constructor
    · rintro ⟨⟩
      obtain ⟨listed, mem⟩ := (named entry).mp List.mem_cons_self
      exact ⟨entry.1, mem, listed⟩
    · rintro ⟨key, mem, listed⟩
      rw [← List.mem_singleton.mp ((named (key, n)).mpr ⟨listed, mem⟩)]

section Records
variable {spare : Bool} {fields : List (Option Node)}

/-- The fields of a record are the nodes that it has in them. -/
theorem fields?_holds (read : fields? spare all n = some fields) (known : names ∈ all) :
    fields[all.idxOf names]? = some (some m) ↔ Holds all names n m := by
  have inside : all.idxOf names < all.length := List.idxOf_lt_length_iff.mpr known
  unfold fields? at read
  split at read
  · rename_i entries
    have each := mapM_some.mp read
    have long : all.idxOf names < fields.length := each.length_eq ▸ inside
    have field := each.get inside long
    rw [List.get_eq_getElem, List.getElem_idxOf] at field
    have named := field?_iff (n := m) field
    rw [List.getElem?_eq_some_iff]
    constructor
    · rintro ⟨_, is⟩
      obtain ⟨key, mem, listed⟩ := named.mp is
      exact .key mem listed
    · rintro (⟨mem, listed⟩ | _)
      exact ⟨long, named.mpr ⟨_, mem, listed⟩⟩
  · rename_i items
    split at read
    · cases read
      simp only [elements, List.getElem?_map, List.getElem?_range inside, Option.map_some,
        Option.some.injEq]
      constructor
      · exact .element
      · rintro (_ | listed)
        exact listed
    · cases read
  · cases read

/-- That what a record has in the field of some names, which may be nothing, reads as something. -/
def FieldReads {α : Type} (value : Option Node → Option α) (all : List (List String))
    (names : List String) (n : Node) (x : α) : Prop :=
  ∃ field : Option Node, (∀ m, field = some m ↔ Holds all names n m) ∧ value field = some x

variable {α : Type} {value : Option Node → Option α} {x : α}

theorem FieldReads.of_fields {field : Option Node} (read : fields? spare all n = some fields)
    (known : names ∈ all) (here : fields[all.idxOf names]? = some field)
    (found : value field = some x) : FieldReads value all names n x := by
  refine ⟨field, fun m => ?_, found⟩
  rw [← fields?_holds read known, here, Option.some.injEq]

theorem FieldReads.of_holds (h : FieldReads value all names n x) (held : Holds all names n m) :
    value (some m) = some x := by
  obtain ⟨field, same, found⟩ := h
  rwa [← (same m).mpr held]

end Records

/-- A relation that need only be weakened at the elements of the left-hand side. -/
theorem forall₂_imp_mem {α β : Type} {R S : α → β → Prop} {xs : List α} {ys : List β}
    (related : List.Forall₂ R xs ys) (weaker : ∀ x ∈ xs, ∀ y, R x y → S x y) :
    List.Forall₂ S xs ys :=
  ((List.forall₂_and_left _ _).mpr ⟨weaker, related⟩).imp fun _ y both => both.1 y both.2

/-- A list as a field: it is left out, or each of its items is read. -/
theorem orElse_listOf {α : Type} {read : Node → Option α} {field : Option Node} {xs : List α} :
    orElse [] (listOf read) field = some xs ↔ field = none ∧ xs = [] ∨
      ∃ items, field = some (.list items) ∧
        List.Forall₂ (fun item x => read item = some x) items xs := by
  cases field with
  | none => simp [orElse, eq_comm]
  | some k => cases k <;> simp [orElse, listOf, mapM_some]

theorem optional_some {α : Type} {read : Node → Option α} {x : Option α} :
    optional read (some n) = some x ↔
      n = .null ∧ none = x ∨ n ≠ .null ∧ ∃ y, read n = some y ∧ some y = x := by
  cases n <;> simp [optional]

end BoundSql.Shape
