import BoundSql.Query.Select
import Mathlib.Data.List.FinRange
import Mathlib.Data.List.Sort
import Mathlib.Data.Fin.VecNotation
import Mathlib.Data.Fintype.Basic
import Mathlib.Tactic.FinCases

/-! Queries that are built in steps. Each part of a query is told by the steps that write it, in
their order, so steps that write different parts can change places. -/
namespace BoundSql

/-- The conjunction of conditions from left to right, if there are any. -/
def Condition.conjunction : List Condition → Option Condition
  | [] => none
  | first :: rest => some (rest.foldl Condition.and first)

theorem Condition.foldl_narrow (existing : Condition) (conditions : List Condition) :
    conditions.foldl narrow (some existing) = some (conditions.foldl Condition.and existing) := by
  induction conditions generalizing existing with
  | nil => rfl
  | cons condition rest ih => exact ih (existing.and condition)

theorem Condition.foldl_narrow_none (conditions : List Condition) :
    conditions.foldl narrow none = conjunction conditions := by
  cases conditions with
  | nil => rfl
  | cons first rest => exact foldl_narrow first rest

namespace Query

/-- The parts of a query that a step may write. -/
inductive Part where
  | fields
  | distinct
  | label
  | joins
  | filter
  | groupBy
  | having
  | orderBy
  | limit
  | offset
  | common
  | preamble
deriving DecidableEq

/-- What a part of a query holds. -/
def Part.Content : Part → Type
  | fields => List String
  | distinct => Bool
  | label => Option String
  | joins => List Join
  | filter => Option Condition
  | groupBy => List String
  | having => Option String
  | orderBy => List String
  | limit => Option UInt64
  | offset => Option UInt64
  | common => List CommonTable
  | preamble => Option String

/-- A query in its parts. -/
def get (q : Query) : (part : Part) → part.Content
  | .fields => q.fields
  | .distinct => q.distinct
  | .label => q.label
  | .joins => q.joins
  | .filter => q.filter
  | .groupBy => q.groupBy
  | .having => q.having
  | .orderBy => q.orderBy
  | .limit => q.limit
  | .offset => q.offset
  | .common => q.common
  | .preamble => q.preamble

namespace Step

/-- The parts that a step writes. A page is both a limit and an offset. -/
def writes : Step → List Part
  | .select _ => [.fields]
  | .distinct => [.distinct]
  | .label _ => [.label]
  | .join _ => [.joins]
  | .filter _ => [.filter]
  | .groupBy _ => [.groupBy]
  | .having _ => [.having]
  | .orderBy _ => [.orderBy]
  | .limit _ => [.limit]
  | .offset _ => [.offset]
  | .page _ _ => [.limit, .offset]
  | .common _ => [.common]
  | .preamble _ => [.preamble]

/-- That two steps write a common part. -/
def Collides (a b : Step) : Prop := ∃ part ∈ a.writes, part ∈ b.writes

instance (a b : Step) : Decidable (a.Collides b) :=
  inferInstanceAs (Decidable (∃ part ∈ a.writes, part ∈ b.writes))

def givenFields : Step → List String
  | .select fields => fields
  | _ => []

def givenLabel : Step → Option String
  | .label name => some name
  | _ => none

def givenJoin : Step → Option Join
  | .join j => some j
  | _ => none

def givenFilter : Step → Option Condition
  | .filter condition => some condition
  | _ => none

def givenGroups : Step → List String
  | .groupBy fields => fields
  | _ => []

def givenHaving : Step → Option String
  | .having sql => some sql
  | _ => none

def givenOrder : Step → Option String
  | .orderBy term => some term
  | _ => none

def givenLimit : Step → Option UInt64
  | .limit n => some n
  | .page _ size => some size
  | _ => none

/-- The rows that a step leaves out, for a page those of the pages before it, and never more than
the largest number of them. -/
def givenOffset : Step → Option UInt64
  | .offset n => some n
  | .page number size =>
    some (.ofNat (min ((number.toNat - 1) * size.toNat) (UInt64.size - 1)))
  | _ => none

def givenCommon : Step → Option CommonTable
  | .common table => some table
  | _ => none

def givenPreamble : Step → Option String
  | .preamble sql => some sql
  | _ => none

end Step

/-- That a query is what steps make of the query of all rows of a table. Lists hold what the steps
give, one after another, of a text or number the last one counts, and filters are combined from left
to right. -/
structure Built (table : String) (steps : List Step) (q : Query) : Prop where
  source : q.source = table
  fields : q.fields = steps.flatMap Step.givenFields
  distinct : q.distinct = true ↔ Step.distinct ∈ steps
  label : q.label = (steps.filterMap Step.givenLabel).getLast?
  joins : q.joins = steps.filterMap Step.givenJoin
  filter : q.filter = Condition.conjunction (steps.filterMap Step.givenFilter)
  groupBy : q.groupBy = steps.flatMap Step.givenGroups
  having : q.having = (steps.filterMap Step.givenHaving).getLast?
  orderBy : q.orderBy = steps.filterMap Step.givenOrder
  limit : q.limit = (steps.filterMap Step.givenLimit).getLast?
  offset : q.offset = (steps.filterMap Step.givenOffset).getLast?
  common : q.common = steps.filterMap Step.givenCommon
  preamble : q.preamble = (steps.filterMap Step.givenPreamble).getLast?

section Run
variable {α β : Type} {get : Query → β}

/-- What every step leaves alone is at the end as it was. -/
theorem applyAll_kept (each : ∀ q step, get (q.apply step) = get q) (q : Query)
    (steps : List Step) : get (q.applyAll steps) = get q := by
  induction steps generalizing q with
  | nil => rfl
  | cons step rest ih => exact (ih (q.apply step)).trans (each q step)

theorem applyAll_source (q : Query) (steps : List Step) :
    (q.applyAll steps).source = q.source := by
  apply applyAll_kept
  intro q step
  cases step <;> rfl

/-- A list to which every step adds something holds all of that in the end. -/
theorem applyAll_added (get : Query → List α) (given : Step → List α)
    (each : ∀ q step, get (q.apply step) = get q ++ given step) (q : Query) (steps : List Step) :
    get (q.applyAll steps) = get q ++ steps.flatMap given := by
  induction steps generalizing q with
  | nil => exact (List.append_nil _).symm
  | cons step rest ih =>
      rw [List.flatMap_cons, ← List.append_assoc, ← each]
      exact ih (q.apply step)

/-- Of what steps overwrite, the last is left. -/
theorem applyAll_last (get : Query → Option α) (given : Step → Option α)
    (each : ∀ q step, get (q.apply step) = (given step).or (get q)) (q : Query)
    (steps : List Step) :
    get (q.applyAll steps) = (steps.filterMap given).getLast?.or (get q) := by
  induction steps generalizing q with
  | nil => rfl
  | cons step rest ih =>
      have later : get (q.applyAll (step :: rest)) =
          (rest.filterMap given).getLast?.or ((given step).or (get q)) := by
        rw [← each]
        exact ih (q.apply step)
      rw [later]
      cases written : given step with
      | none => rw [List.filterMap_cons_none written, Option.none_or]
      | some value =>
          rw [List.filterMap_cons_some written, List.getLast?_cons]
          cases (rest.filterMap given).getLast? <;> rfl

end Run

theorem applyAll_filters (q : Query) (steps : List Step) :
    (q.applyAll steps).filter =
      (steps.filterMap Step.givenFilter).foldl Condition.narrow q.filter := by
  induction steps generalizing q with
  | nil => rfl
  | cons step rest ih =>
      have later := ih (q.apply step)
      cases step <;> exact later

theorem applyAll_distinct (q : Query) (steps : List Step) :
    (q.applyAll steps).distinct = true ↔ q.distinct = true ∨ Step.distinct ∈ steps := by
  induction steps generalizing q with
  | nil => simp [applyAll]
  | cons step rest ih =>
      refine (ih (q.apply step)).trans ?_
      cases step <;> simp [apply]

/-- A list to which some steps add one item each. -/
theorem applyAll_pushed {α : Type} (get : Query → List α) (given : Step → Option α)
    (each : ∀ q step, get (q.apply step) = get q ++ (given step).toList) (q : Query)
    (steps : List Step) : get (q.applyAll steps) = get q ++ steps.filterMap given := by
  rw [applyAll_added get _ each, List.filterMap_eq_flatMap_toList]

theorem built_applyAll (table : String) (steps : List Step) :
    Built table steps ((ofTable table).applyAll steps) := by
  constructor
  case source => exact applyAll_source _ steps
  case fields =>
    apply applyAll_added fields Step.givenFields
    intro q step
    cases step <;> simp [apply, Step.givenFields]
  case distinct => simp [applyAll_distinct, ofTable]
  case label =>
    refine (applyAll_last label Step.givenLabel ?_ _ steps).trans (Option.or_none)
    intro q step
    cases step <;> rfl
  case joins =>
    apply applyAll_pushed joins Step.givenJoin
    intro q step
    cases step <;> simp [apply, Step.givenJoin]
  case filter => exact (applyAll_filters _ steps).trans (Condition.foldl_narrow_none _)
  case groupBy =>
    apply applyAll_added groupBy Step.givenGroups
    intro q step
    cases step <;> simp [apply, Step.givenGroups]
  case having =>
    refine (applyAll_last having Step.givenHaving ?_ _ steps).trans (Option.or_none)
    intro q step
    cases step <;> rfl
  case orderBy =>
    apply applyAll_pushed orderBy Step.givenOrder
    intro q step
    cases step <;> simp [apply, Step.givenOrder]
  case limit =>
    refine (applyAll_last limit Step.givenLimit ?_ _ steps).trans (Option.or_none)
    intro q step
    cases step <;> rfl
  case offset =>
    refine (applyAll_last offset Step.givenOffset ?_ _ steps).trans (Option.or_none)
    intro q step
    cases step <;> rfl
  case common =>
    apply applyAll_pushed common Step.givenCommon
    intro q step
    cases step <;> simp [apply, Step.givenCommon]
  case preamble =>
    refine (applyAll_last preamble Step.givenPreamble ?_ _ steps).trans (Option.or_none)
    intro q step
    cases step <;> rfl

/-- A list in another order, in which the elements of some kind stand as before. -/
theorem filter_reordered {α : Type} {xs ys : List α} {kind : α → Bool}
    (place : Fin xs.length ≃ Fin ys.length) (same : ∀ i, ys.get (place i) = xs.get i)
    (stays : ∀ i j, i < j → kind (xs.get i) → kind (xs.get j) → place i < place j) :
    xs.filter kind = ys.filter kind := by
  have moved : ys.get ∘ place = xs.get := funext same
  have places : ((List.finRange xs.length).filter (kind ∘ xs.get)).map place =
      (List.finRange ys.length).filter (kind ∘ ys.get) := by
    apply List.SortedLT.eq_of_mem_iff
    · apply List.Pairwise.sortedLT
      rw [List.pairwise_map]
      refine ((List.sortedLT_finRange _).pairwise.filter _).imp_of_mem ?_
      intro i j first second before
      exact stays i j before (List.mem_filter.mp first).2 (List.mem_filter.mp second).2
    · exact ((List.sortedLT_finRange _).pairwise.filter _).sortedLT
    · intro k
      obtain ⟨i, rfl⟩ := place.surjective k
      rw [List.mem_map_of_injective place.injective, List.mem_filter, List.mem_filter,
        Function.comp_apply, Function.comp_apply, same]
      simp
  calc xs.filter kind
      = ((List.finRange xs.length).filter (kind ∘ xs.get)).map xs.get := by
        rw [← List.filter_map, List.map_get_finRange]
    _ = (((List.finRange xs.length).filter (kind ∘ xs.get)).map place).map ys.get := by
        rw [List.map_map, moved]
    _ = ys.filter kind := by rw [places, ← List.filter_map, List.map_get_finRange]

/-- That steps are given in another order, in which any two that write a common part stand as
before. -/
def Reordered (steps later : List Step) : Prop :=
  ∃ place : Fin steps.length ≃ Fin later.length, (∀ i, later.get (place i) = steps.get i) ∧
    ∀ i j, i < j → (steps.get i).Collides (steps.get j) → place i < place j

theorem Reordered.writers {steps later : List Step} (h : Reordered steps later) (part : Part) :
    steps.filter (part ∈ ·.writes) = later.filter (part ∈ ·.writes) := by
  obtain ⟨place, same, stays⟩ := h
  refine filter_reordered place same ?_
  intro i j before first second
  exact stays i j before ⟨part, of_decide_eq_true first, of_decide_eq_true second⟩

section Frame
variable {q r : Query} {part : Part} {step : Step}

/-- A step leaves alone what it does not write. -/
theorem get_apply_other (other : part ∉ step.writes) : (q.apply step).get part = q.get part := by
  cases step <;> cases part <;> first | rfl | simp [Step.writes] at other

/-- What a step makes of a part does not hang on the other parts. -/
theorem get_apply_congr (same : q.get part = r.get part) :
    (q.apply step).get part = (r.apply step).get part := by
  cases step <;> cases part <;> first
    | exact same
    | rfl
    | exact congrArg (· ++ _) same
    | exact congrArg (Condition.narrow · _) same

theorem get_applyAll_congr (same : q.get part = r.get part) (steps : List Step) :
    (q.applyAll steps).get part = (r.applyAll steps).get part := by
  induction steps generalizing q r with
  | nil => exact same
  | cons step rest ih => exact ih (get_apply_congr same)

/-- A part is what the steps that write it make of it. -/
theorem get_applyAll_writers (q : Query) (part : Part) (steps : List Step) :
    (q.applyAll steps).get part = (q.applyAll (steps.filter (part ∈ ·.writes))).get part := by
  induction steps generalizing q with
  | nil => rfl
  | cons step rest ih =>
      by_cases written : part ∈ step.writes
      · rw [List.filter_cons_of_pos (by simpa using written)]
        exact ih (q.apply step)
      · rw [List.filter_cons_of_neg (by simpa using written), ← ih q]
        exact get_applyAll_congr (get_apply_other written) rest

theorem eq_of_get (source : q.source = r.source) (same : ∀ part, q.get part = r.get part) :
    q = r := by
  cases q
  cases r
  rw [mk.injEq]
  exact ⟨same .fields, same .distinct, source, same .label, same .joins, same .filter,
    same .groupBy, same .having, same .orderBy, same .limit, same .offset, same .common,
    same .preamble⟩

end Frame

/-- Steps in another order build the same query, as long as any two of them that write a common
part stand as before. -/
theorem applyAll_reordered {steps later : List Step} (h : Reordered steps later) (q : Query) :
    q.applyAll later = q.applyAll steps := by
  apply eq_of_get
  · rw [applyAll_source, applyAll_source]
  · intro part
    rw [get_applyAll_writers, ← h.writers part, ← get_applyAll_writers]

/-- A query is told by what its steps have set, each part of it by itself. So the order of the steps
matters only among those that write a common part. -/
theorem built_by_steps (table : String) (steps : List Step) :
    Built table steps ((ofTable table).applyAll steps) ∧
      ∀ later, Reordered steps later → ∀ options,
        ((ofTable table).applyAll later).compile options =
            ((ofTable table).applyAll steps).compile options ∧
          ((ofTable table).applyAll later).compileCount options =
            ((ofTable table).applyAll steps).compileCount options := by
  refine ⟨built_applyAll table steps, ?_⟩
  intro later reordered options
  rw [applyAll_reordered reordered]
  exact ⟨rfl, rfl⟩

/-- The third page of a list, the size of which is changed afterwards. -/
def thirdPage : List Step :=
  [.filter (.leaf "age" ">" (.integer 18)), .page 3 10, .select ["id"], .limit 5, .distinct,
    .filter (.leaf "name" "is not null" .null)]

/-- The same steps with the page first and the filters last. -/
def pageFirst : List Step :=
  [.page 3 10, .distinct, .limit 5, .select ["id"], .filter (.leaf "age" ">" (.integer 18)),
    .filter (.leaf "name" "is not null" .null)]

theorem reordered_pageFirst : Reordered thirdPage pageFirst := by
  let place : Fin 6 ≃ Fin 6 :=
    ⟨![4, 0, 3, 2, 1, 5], ![1, 4, 3, 2, 0, 5], by decide, by decide⟩
  have same : ∀ i : Fin 6, pageFirst.get (place i) = thirdPage.get i := by
    intro i
    fin_cases i <;> rfl
  exact ⟨place, same, by decide⟩

set_option maxRecDepth 100000 in
theorem built_thirdPage :
    Reordered thirdPage pageFirst ∧
      ((ofTable "users").applyAll thirdPage).limit = some 5 ∧
      ((ofTable "users").applyAll thirdPage).offset = some 20 ∧
      ((ofTable "users").applyAll pageFirst).compile {} =
        .ok ⟨"SELECT DISTINCT id FROM users WHERE (age > ? AND name IS NOT NULL) " ++
          "LIMIT 5 OFFSET 20", [.integer 18]⟩ := by
  obtain ⟨built, others⟩ := built_by_steps "users" thirdPage
  refine ⟨reordered_pageFirst, built.limit, built.offset, ?_⟩
  rw [(others pageFirst reordered_pageFirst {}).1]
  rfl

end Query
end BoundSql
