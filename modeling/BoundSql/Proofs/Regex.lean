import BoundSql.Text.Regex
import Mathlib.Data.List.Basic

/-! What a search for a regular expression finds: a part of the text that the items share out among
themselves, in order. -/
namespace BoundSql.Regex

/-- What an item takes from a text, with what is before it and behind it. -/
def Item.Takes : Item → (before taken behind : List Char) → Prop
  | .start, before, taken, _ => before = [] ∧ taken = []
  | .finish, _, taken, behind => taken = [] ∧ behind = []
  | .one members, _, taken, _ => ∃ c, members.holds c ∧ taken = [c]
  | .many members, _, taken, _ => ∀ c ∈ taken, members.holds c

/-- What items in a row take. -/
def Takes : Regex → (before taken behind : List Char) → Prop
  | [], _, taken, _ => taken = []
  | item :: later, before, taken, behind =>
    ∃ first more, taken = first ++ more ∧ item.Takes before first (more ++ behind) ∧
      Takes later (before ++ first) more behind

variable {members : Class} {items : Regex} {before cs : List Char}

section Items
variable {taken behind : List Char}

theorem takes_start : Takes (.start :: items) before taken behind ↔
    before = [] ∧ Takes items before taken behind := by
  constructor
  · rintro ⟨_, more, rfl, ⟨rfl, rfl⟩, takes⟩
    exact ⟨rfl, takes⟩
  · rintro ⟨rfl, takes⟩
    exact ⟨[], taken, rfl, ⟨rfl, rfl⟩, takes⟩

theorem takes_finish : Takes [.finish] before taken behind ↔ taken = [] ∧ behind = [] := by
  constructor
  · rintro ⟨_, _, rfl, ⟨rfl, nothing⟩, rfl⟩
    exact ⟨rfl, nothing⟩
  · rintro ⟨rfl, rfl⟩
    exact ⟨[], [], rfl, ⟨rfl, rfl⟩, rfl⟩

theorem takes_one : Takes (.one members :: items) before taken behind ↔
    ∃ c more, taken = c :: more ∧ members.holds c ∧ Takes items (before ++ [c]) more behind := by
  constructor
  · rintro ⟨_, more, rfl, ⟨c, member, rfl⟩, takes⟩
    exact ⟨c, more, rfl, member, takes⟩
  · rintro ⟨c, more, rfl, member, takes⟩
    exact ⟨[c], more, rfl, ⟨c, member, rfl⟩, takes⟩

/-- A class up to the end of the text takes all of it. -/
theorem takes_many_finish : Takes [.many members, .finish] before taken behind ↔
    (∀ c ∈ taken, members.holds c) ∧ behind = [] := by
  constructor
  · rintro ⟨run, more, rfl, all, takes⟩
    obtain ⟨rfl, rfl⟩ := takes_finish.mp takes
    rw [List.append_nil]
    exact ⟨all, rfl⟩
  · rintro ⟨all, rfl⟩
    exact ⟨taken, [], (List.append_nil taken).symm, all, takes_finish.mpr ⟨rfl, rfl⟩⟩

end Items

theorem isEmpty_concat (before : List Char) (c : Char) : (before ++ [c]).isEmpty = false :=
  List.isEmpty_eq_false_iff.mpr (List.append_ne_nil_of_right_ne_nil before (List.cons_ne_nil c []))

theorem skipping_iff (next : Bool → List Char → Bool) :
    skipping members next before.isEmpty cs ↔ ∃ skipped rest, cs = skipped ++ rest ∧
      (∀ c ∈ skipped, members.holds c) ∧ next (before ++ skipped).isEmpty rest := by
  induction cs generalizing before with
  | nil =>
      rw [skipping]
      constructor
      · intro found
        exact ⟨[], [], rfl, List.forall_mem_nil _, by rwa [List.append_nil]⟩
      · rintro ⟨skipped, rest, nothing, -, found⟩
        obtain ⟨rfl, rfl⟩ := List.append_eq_nil_iff.mp nothing.symm
        rwa [List.append_nil] at found
  | cons c cs ih =>
      rw [skipping, Bool.or_eq_true_iff, Bool.and_eq_true_iff, ← isEmpty_concat before c, ih]
      constructor
      · rintro (found | ⟨member, skipped, rest, rfl, all, found⟩)
        · exact ⟨[], _, rfl, List.forall_mem_nil _, by rwa [List.append_nil]⟩
        · refine ⟨c :: skipped, rest, rfl, List.forall_mem_cons.mpr ⟨member, all⟩, ?_⟩
          rwa [List.append_cons]
      · rintro ⟨_ | ⟨d, skipped⟩, rest, parted, all, found⟩
        · rw [List.append_nil] at found
          exact .inl (parted ▸ found)
        · obtain ⟨rfl, rfl⟩ := List.cons.inj parted
          obtain ⟨member, all⟩ := List.forall_mem_cons.mp all
          exact .inr ⟨member, skipped, rest, rfl, all, by rwa [← List.append_cons]⟩

/-- Items match here exactly if they can share out some of what comes next. -/
theorem matchesHere_iff : items.matchesHere before.isEmpty cs ↔
    ∃ taken behind, cs = taken ++ behind ∧ items.Takes before taken behind := by
  induction items generalizing before cs with
  | nil => exact ⟨fun _ => ⟨[], cs, rfl, rfl⟩, fun _ => rfl⟩
  | cons item later ih =>
      have shared : (∃ taken behind, cs = taken ++ behind ∧
          Takes (item :: later) before taken behind) ↔
          ∃ first rest, cs = first ++ rest ∧ item.Takes before first rest ∧
            matchesHere later (before ++ first).isEmpty rest := by
        simp only [Takes, ih]
        constructor
        · rintro ⟨_, behind, rfl, first, more, rfl, takes, found⟩
          exact ⟨first, more ++ behind, List.append_assoc .., takes, more, behind, rfl, found⟩
        · rintro ⟨first, _, rfl, takes, more, behind, rfl, found⟩
          exact ⟨first ++ more, behind, (List.append_assoc ..).symm, first, more, rfl, takes, found⟩
      rw [shared]
      cases item with
      | start =>
          rw [matchesHere, Bool.and_eq_true_iff, List.isEmpty_iff]
          constructor
          · rintro ⟨rfl, found⟩
            exact ⟨[], cs, rfl, ⟨rfl, rfl⟩, found⟩
          · rintro ⟨_, rest, rfl, ⟨rfl, rfl⟩, found⟩
            exact ⟨rfl, found⟩
      | finish =>
          rw [matchesHere, Bool.and_eq_true_iff, List.isEmpty_iff]
          constructor
          · rintro ⟨rfl, found⟩
            exact ⟨[], [], rfl, ⟨rfl, rfl⟩, by rwa [List.append_nil]⟩
          · rintro ⟨_, _, rfl, ⟨rfl, rfl⟩, found⟩
            rw [List.append_nil] at found
            exact ⟨rfl, found⟩
      | one members =>
          cases cs with
          | nil =>
              refine ⟨nofun, ?_⟩
              rintro ⟨_, rest, parted, ⟨c, -, rfl⟩, -⟩
              cases parted
          | cons c rest =>
              simp only [matchesHere, Bool.and_eq_true_iff]
              rw [← isEmpty_concat before c]
              constructor
              · rintro ⟨member, found⟩
                exact ⟨[c], rest, rfl, ⟨c, member, rfl⟩, found⟩
              · rintro ⟨_, _, parted, ⟨d, member, rfl⟩, found⟩
                obtain ⟨rfl, rfl⟩ := List.cons.inj parted
                exact ⟨member, found⟩
      | many members => exact skipping_iff _

theorem matchesFrom_iff : items.matchesFrom before.isEmpty cs ↔ ∃ skipped taken behind,
    cs = skipped ++ (taken ++ behind) ∧ items.Takes (before ++ skipped) taken behind := by
  induction cs generalizing before with
  | nil =>
      rw [matchesFrom, matchesHere_iff]
      constructor
      · rintro ⟨taken, behind, parted, takes⟩
        exact ⟨[], taken, behind, parted, by rwa [List.append_nil]⟩
      · rintro ⟨skipped, taken, behind, parted, takes⟩
        obtain ⟨rfl, nothing⟩ := List.append_eq_nil_iff.mp parted.symm
        rw [List.append_nil] at takes
        exact ⟨taken, behind, nothing.symm, takes⟩
  | cons c rest ih =>
      rw [matchesFrom, Bool.or_eq_true_iff, matchesHere_iff, ← isEmpty_concat before c, ih]
      constructor
      · rintro (⟨taken, behind, parted, takes⟩ | ⟨skipped, taken, behind, rfl, takes⟩)
        · exact ⟨[], taken, behind, parted, by rwa [List.append_nil]⟩
        · exact ⟨c :: skipped, taken, behind, rfl, by rwa [List.append_cons]⟩
      · rintro ⟨_ | ⟨d, skipped⟩, taken, behind, parted, takes⟩
        · rw [List.append_nil] at takes
          exact .inl ⟨taken, behind, parted, takes⟩
        · obtain ⟨rfl, rfl⟩ := List.cons.inj parted
          exact .inr ⟨skipped, taken, behind, rfl, by rwa [← List.append_cons]⟩

/-- A text has a match exactly if a part of it can be shared out among the items. -/
theorem isMatch_iff : items.isMatch cs ↔ ∃ before taken behind,
    cs = before ++ (taken ++ behind) ∧ items.Takes before taken behind :=
  @matchesFrom_iff items [] cs

end BoundSql.Regex
