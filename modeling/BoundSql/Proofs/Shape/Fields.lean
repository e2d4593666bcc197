import BoundSql.Proofs.Node
import BoundSql.Shape.Query
import Mathlib.Data.List.Forall2
import Mathlib.Data.List.Nodup

/-! Fields and lists that are written and read again. A field that is left out is read as left
out, and the names of a record keep its fields apart. -/
namespace BoundSql.Shape
open Node

theorem mapM_some {α β : Type} {f : α → Option β} {xs : List α} {ys : List β} :
    xs.mapM f = some ys ↔ List.Forall₂ (fun x y => f x = some y) xs ys := by
  induction xs generalizing ys with
  | nil => simp [eq_comm]
  | cons x xs ih =>
      simp only [List.mapM_cons, Option.bind_eq_bind, Option.bind_eq_some_iff, ih,
        Option.pure_def, Option.some.injEq, List.forall₂_cons_left_iff]
      constructor
      · rintro ⟨y, hy, zs, hzs, rfl⟩
        exact ⟨y, zs, hy, hzs, rfl⟩
      · rintro ⟨y, zs, hy, hzs, rfl⟩
        exact ⟨y, hy, zs, hzs, rfl⟩

section Records

/-- The entries of a record, each field under the first of its names. -/
def record : List (List String) → List (Option Node) → List (String × Node)
  | names :: rest, value :: values =>
    (value.map (names.headD "", ·)).toList ++ record rest values
  | _, _ => []

theorem entry_eq {α : Type} (key : String) (write : α → Node) (x : Option α) :
    entry key write x = ((x.map write).map (key, ·)).toList := by
  cases x <;> rfl

/-- A list as a field, which is left out if it is empty. -/
def listField {α : Type} (write : α → Node) (items : List α) : Option Node :=
  if items.isEmpty then none else some (.list (items.map write))

theorem listEntry_eq {α : Type} (key : String) (write : α → Node) (items : List α) :
    listEntry key write items = ((listField write items).map (key, ·)).toList := by
  unfold listEntry listField
  split <;> rfl

/-- No two fields share a name, and each of them has one. -/
structure Apart (names : List (List String)) : Prop where
  named : ∀ ns ∈ names, ns.headD "" ∈ ns
  nodup : names.flatten.Nodup

instance (names : List (List String)) : Decidable (Apart names) :=
  decidable_of_iff ((∀ ns ∈ names, ns.headD "" ∈ ns) ∧ names.flatten.Nodup)
    ⟨fun ⟨named, nodup⟩ => ⟨named, nodup⟩, fun h => ⟨h.named, h.nodup⟩⟩

theorem record_keys {names : List (List String)} (named : ∀ ns ∈ names, ns.headD "" ∈ ns)
    {values : List (Option Node)} : ∀ entry ∈ record names values, entry.1 ∈ names.flatten := by
  induction names generalizing values with
  | nil => exact fun _ h => nomatch h
  | cons ns rest ih =>
      obtain ⟨first, others⟩ := List.forall_mem_cons.mp named
      cases values with
      | nil => exact fun _ h => nomatch h
      | cons value values =>
          intro entry he
          rw [List.flatten_cons, List.mem_append]
          obtain he | he := List.mem_append.mp he
          · obtain ⟨n, -, rfl⟩ := Option.map_eq_some_iff.mp (Option.mem_toList.mp he)
            exact .inl first
          · exact .inr (ih others entry he)

theorem field?_here {ns : List String} {key : String} (mem : key ∈ ns) (value : Option Node)
    {rest : List (String × Node)} (apart : ∀ entry ∈ rest, entry.1 ∉ ns) :
    field? ns ((value.map (key, ·)).toList ++ rest) = some value := by
  have others : rest.filter (fun entry => ns.contains entry.1) = [] :=
    List.filter_eq_nil_iff.mpr fun entry he => by simpa using apart entry he
  rw [field?, List.filter_append, others, List.append_nil]
  cases value with
  | none => rfl
  | some n => simp [mem]

theorem field?_later {ns : List String} {key : String} (apart : key ∉ ns) (value : Option Node)
    (rest : List (String × Node)) :
    field? ns ((value.map (key, ·)).toList ++ rest) = field? ns rest := by
  cases value with
  | none => rfl
  | some n => simp [field?, apart]

/-- The fields of a record are read as they were written. -/
theorem fields?_record {names : List (List String)} (apart : Apart names)
    {values : List (Option Node)} (size : values.length = names.length) (spare : Bool) :
    fields? spare names (.table (record names values)) = some values := by
  rw [fields?, mapM_some]
  induction names generalizing values with
  | nil =>
      rw [List.length_eq_zero_iff.mp size]
      exact .nil
  | cons ns rest ih =>
      obtain ⟨first, others⟩ := List.forall_mem_cons.mp apart.named
      have nodup := apart.nodup
      rw [List.flatten_cons, List.nodup_append] at nodup
      obtain ⟨-, later, disjoint⟩ := nodup
      cases values with
      | nil => exact absurd size (by simp)
      | cons value values =>
          refine .cons (field?_here first value fun entry he mem =>
            disjoint _ mem _ (record_keys others entry he) rfl) ?_
          -- The names of later fields are none of this one's, so its entry is passed over.
          have own : ∀ ms ∈ rest, ns.headD "" ∉ ms := fun ms hms mem =>
            disjoint _ first _ (List.mem_flatten.mpr ⟨ms, hms, mem⟩) rfl
          refine ((List.forall₂_and_left _ _).mpr
            ⟨own, ih ⟨others, later⟩ (Nat.succ.inj size)⟩).imp fun ms v read => ?_
          exact (field?_later read.1 value _).trans read.2

theorem mem_of_record {names : List (List String)} {values : List (Option Node)} :
    ∀ entry ∈ record names values, some entry.2 ∈ values := by
  induction names generalizing values with
  | nil => exact fun _ h => nomatch h
  | cons ns rest ih =>
      cases values with
      | nil => exact fun _ h => nomatch h
      | cons value values =>
          intro entry he
          obtain he | he := List.mem_append.mp he
          · obtain ⟨n, rfl, rfl⟩ := Option.map_eq_some_iff.mp (Option.mem_toList.mp he)
            exact List.mem_cons_self
          · exact List.mem_cons_of_mem value (ih entry he)

theorem mem_record {names : List (List String)} {values : List (Option Node)}
    (size : values.length = names.length) {n : Node} (mem : some n ∈ values) :
    ∃ key, (key, n) ∈ record names values := by
  induction names generalizing values with
  | nil => exact absurd mem (by rw [List.length_eq_zero_iff.mp size]; exact List.not_mem_nil)
  | cons ns rest ih =>
      cases values with
      | nil => exact absurd mem List.not_mem_nil
      | cons value values =>
          obtain same | mem := List.mem_cons.mp mem
          · exact ⟨_, List.mem_append_left _ (by rw [← same]; exact List.mem_singleton.mpr rfl)⟩
          · obtain ⟨key, mem⟩ := ih (Nat.succ.inj size) mem
            exact ⟨key, List.mem_append_right _ mem⟩

theorem depth_lt_record {names : List (List String)} {values : List (Option Node)}
    (size : values.length = names.length) {n : Node} (mem : some n ∈ values) :
    n.depth < (Node.table (record names values)).depth := by
  obtain ⟨key, mem⟩ := mem_record size mem
  exact depth_lt_table (key, n) mem

theorem plain_record {names : List (List String)} {values : List (Option Node)}
    (each : values.Forall fun value => ∀ n ∈ value, Plain n) :
    Plain (.table (record names values)) :=
  .table fun entry he =>
    List.forall_iff_forall_mem.mp each _ (mem_of_record entry he) entry.2 rfl

theorem isReadable_record {names : List (List String)} {values : List (Option Node)}
    (each : values.Forall fun value => ∀ n ∈ value, n.isReadable) :
    (Node.table (record names values)).isReadable :=
  isReadable_table.mpr fun entry he =>
    List.forall_iff_forall_mem.mp each _ (mem_of_record entry he) entry.2 rfl

end Records

section Fields
variable {α : Type} {write : α → Node} {read : Node → Option α}

theorem listOf_map {items : List α} (h : ∀ x ∈ items, read (write x) = some x) :
    listOf read (.list (items.map write)) = some items := by
  rw [listOf, mapM_some, List.forall₂_map_left_iff, List.forall₂_same]
  exact h

@[simp] theorem required_some (n : Node) : required read (some n) = read n :=
  rfl

@[simp] theorem orElse_some (absent : α) (n : Node) : orElse absent read (some n) = read n :=
  rfl

theorem listField_id (items : List α) : listField id (items.map write) = listField write items := by
  simp [listField]

theorem orElse_listField {items : List α} (h : ∀ x ∈ items, read (write x) = some x) :
    orElse [] (listOf read) (listField write items) = some items := by
  unfold listField
  split
  · rename_i empty
    rw [List.isEmpty_iff.mp empty]
    rfl
  · exact listOf_map h

/-- A field that is read again is not taken for one that is left out, as null would be. -/
theorem optional_map {x : Option α} (h : ∀ a ∈ x, read (write a) = some a ∧ write a ≠ .null) :
    optional read (x.map write) = some x := by
  cases x with
  | none => rfl
  | some a =>
      obtain ⟨same, present⟩ := h a rfl
      rw [Option.map_some, optional, same]
      · rfl
      · exact present

theorem plain_map {x : Option α} (h : ∀ a ∈ x, Plain (write a)) : ∀ n ∈ x.map write, Plain n := by
  intro n hn
  obtain ⟨a, ha, rfl⟩ := Option.map_eq_some_iff.mp hn
  exact h a ha

theorem plain_list {items : List α} (h : ∀ x ∈ items, Plain (write x)) :
    Plain (.list (items.map write)) :=
  .list (List.forall_mem_map.mpr h)

theorem plain_listField {items : List α} (h : ∀ x ∈ items, Plain (write x)) :
    ∀ n ∈ listField write items, Plain n := by
  intro n hn
  unfold listField at hn
  split at hn
  · cases hn
  · cases hn
    exact plain_list h

end Fields

theorem plain_some {n : Node} (h : Plain n) : ∀ m ∈ some n, Plain m := by
  rintro _ ⟨⟩
  exact h

theorem plain_text (s : String) : ∀ n ∈ some (Node.text s), Plain n :=
  plain_some (.text s)

theorem plain_optional_text (s : Option String) : ∀ n ∈ s.map .text, Plain n :=
  plain_map fun given _ => .text given

theorem plain_texts (texts : List String) : ∀ n ∈ listField .text texts, Plain n :=
  plain_listField fun text _ => .text text

theorem optional_text (s : Option String) : optional text? (s.map .text) = some s :=
  optional_map fun _ _ => ⟨rfl, nofun⟩

theorem texts_read (texts : List String) :
    orElse [] (listOf text?) (listField .text texts) = some texts :=
  orElse_listField fun _ _ => rfl

theorem count?_ofCount (n : UInt64) : count? (ofCount n) = some n := by
  have size : n.toNat < UInt64.size := n.toNat_lt
  have read : count? (.whole (.ofNat n.toNat)) = some (.ofNat n.toNat) := if_pos size
  rw [ofCount]
  exact read.trans (congrArg some UInt64.ofNat_toNat)

theorem optional_count (n : Option UInt64) : optional count? (n.map ofCount) = some n :=
  optional_map fun m _ => ⟨count?_ofCount m, nofun⟩

theorem plain_ofCount (n : UInt64) : Plain (ofCount n) := by
  have high := n.toNat_lt
  exact .whole (by omega) (by omega)

theorem plain_optional_count (n : Option UInt64) : ∀ m ∈ n.map ofCount, Plain m :=
  plain_map fun given _ => plain_ofCount given

end BoundSql.Shape
