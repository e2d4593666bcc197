import BoundSql.Proofs.Storage.Files

/-! Files beside the same files without one of them, or with directories added. A path leads to the
same place without a file, or it leads nowhere in either, so that only the file itself can tell them
apart. With more directories it leads where it has led before. -/
namespace BoundSql.Files

variable {files bare made all : Files} {place other : Place}

/-- Files that have nothing where others have a file, and are the same anywhere else. -/
structure Lacks (place : Place) (files bare : Files) : Prop where
  present : ∃ content, files.find? place = some (.file content)
  missing : bare.find? place = none
  others : ∀ other, other ≠ place → bare.find? other = files.find? other

/-- The files without what is at a place. -/
def without (files : Files) (place : Place) : Files := ⟨files.entries.filter (·.1 ≠ place)⟩

theorem lookup_filter (entries : List (Place × Entry)) :
    (entries.filter (·.1 ≠ place)).lookup other =
      if other = place then none else entries.lookup other := by
  induction entries with
  | nil => simp
  | cons e rest ih =>
      obtain ⟨key, found⟩ := e
      by_cases here : key = place
      · obtain rfl := here
        rw [List.filter_cons_of_neg (by simp), ih]
        split
        · rfl
        · rename_i apart
          rw [lookup_other apart]
      · rw [List.filter_cons_of_pos (by simpa using here)]
        by_cases same : other = key
        · rw [same, if_neg here, List.lookup_cons_self, List.lookup_cons_self]
        · rw [lookup_other same, lookup_other same, ih]

theorem lacks_without {content : String} (present : files.find? place = some (.file content)) :
    Lacks place files (files.without place) := by
  have inside : place ≠ [] := inside_of_vacant (by rw [present]; exact nofun)
  refine ⟨⟨content, present⟩, ?_, fun other apart => ?_⟩
  · rw [find?, List.isEmpty_eq_false_iff.mpr inside, without, lookup_filter, if_pos rfl]
    rfl
  · rw [find?, find?, without, lookup_filter, if_neg apart]

theorem read_ok {directory : Place} {path content : String} :
    files.read directory path = .ok content ↔ ∃ place,
      files.locate directory path = .ok place ∧ files.find? place = some (.file content) := by
  unfold read
  cases files.locate directory path with
  | error fault => exact ⟨nofun, nofun⟩
  | ok place =>
      simp only [bind, Except.bind, Except.ok.injEq, exists_eq_left']
      rcases files.find? place with _ | _ | text
      · exact ⟨nofun, nofun⟩
      · exact ⟨nofun, nofun⟩
      · simp [pure, Except.pure]

namespace Lacks

/-- Names lead on from a directory only, and the directories are the same. -/
theorem walk (h : Lacks place files bare) (names : List String) (start : Place) :
    (∃ reached, files.walk start names = .ok reached ∧ bare.walk start names = .ok reached) ∨
      (∃ fault, files.walk start names = .error fault) ∧
        ∃ fault, bare.walk start names = .error fault := by
  induction names generalizing start with
  | nil => exact .inl ⟨start, rfl, rfl⟩
  | cons name rest ih =>
      rw [Files.walk, Files.walk]
      by_cases here : start = place
      · obtain ⟨content, present⟩ := h.present
        rw [here, present, h.missing]
        exact .inr ⟨⟨_, rfl⟩, _, rfl⟩
      · rw [h.others start here]
        rcases files.find? start with _ | _ | content
        · exact .inr ⟨⟨_, rfl⟩, _, rfl⟩
        · cases follow start name with
          | error fault => exact .inr ⟨⟨_, rfl⟩, _, rfl⟩
          | ok next => exact ih next
        · exact .inr ⟨⟨_, rfl⟩, _, rfl⟩

theorem locate (h : Lacks place files bare) (directory : Place) (path : String) :
    (∃ reached, files.locate directory path = .ok reached ∧
        bare.locate directory path = .ok reached) ∨
      (∃ fault, files.locate directory path = .error fault) ∧
        ∃ fault, bare.locate directory path = .error fault := by
  unfold Files.locate
  cases steps path with
  | error fault => exact .inr ⟨⟨_, rfl⟩, _, rfl⟩
  | ok names => exact h.walk names _

theorem locate_ok (h : Lacks place files bare) {directory : Place} {path : String}
    {reached : Place} (located : files.locate directory path = .ok reached) :
    bare.locate directory path = .ok reached := by
  obtain ⟨other, leads, same⟩ | ⟨⟨fault, fails⟩, -⟩ := h.locate directory path
  · rw [located] at leads
    cases leads
    exact same
  · rw [located] at fails
    cases fails

theorem read_missing (h : Lacks place files bare) {directory : Place} {path : String}
    (located : files.locate directory path = .ok place) :
    bare.read directory path = .error .missing := by
  rw [read, h.locate_ok located]
  simp only [bind, Except.bind, h.missing]
  rfl

/-- What is read without the file is the same, unless it is the file. -/
theorem read (h : Lacks place files bare) (directory : Place) (path : String) :
    (bare.read directory path).toOption = (files.read directory path).toOption ∨
      files.locate directory path = .ok place := by
  obtain ⟨reached, leads, same⟩ | ⟨⟨fault, fails⟩, fault', fails'⟩ := h.locate directory path
  · by_cases here : reached = place
    · exact .inr (here ▸ leads)
    · refine .inl ?_
      unfold Files.read
      rw [leads, same]
      simp only [bind, Except.bind, h.others reached here]
  · refine .inl ?_
    unfold Files.read
    rw [fails, fails']
    rfl

end Lacks

/-- Files that directories have been added to where nothing was. -/
def Grown (files made : Files) : Prop :=
  ∀ other, made.find? other = files.find? other ∨
    files.find? other = none ∧ made.find? other = some .directory

namespace Grown

theorem refl (files : Files) : Grown files files := fun _ => .inl rfl

theorem trans (first : Grown files made) (later : Grown made all) : Grown files all := by
  intro other
  obtain same | ⟨missing, directory⟩ := later other
  · rw [same]
    exact first other
  · obtain same | ⟨-, directory'⟩ := first other
    · exact .inr ⟨same ▸ missing, directory⟩
    · rw [directory'] at missing
      cases missing

theorem makeDirectory (makes : files.makeDirectory place = .ok made) : Grown files made := by
  unfold Files.makeDirectory at makes
  split at makes
  · cases makes
    exact refl files
  · cases makes
  · rename_i missing
    cases makes
    have inside : place ≠ [] := inside_of_vacant (by rw [missing]; exact nofun)
    intro other
    rw [find?_put inside]
    split
    · rename_i here
      exact .inr ⟨here ▸ missing, rfl⟩
    · exact .inl rfl

theorem makeAlong (files : Files) (place : Place) (names : List String) :
    Grown files (files.makeAlong place names).2 := by
  induction names generalizing files place with
  | nil => exact refl files
  | cons name rest ih =>
      rw [Files.makeAlong]
      cases enters : files.enter place name with
      | error fault => exact refl files
      | ok reached =>
          obtain ⟨-, makes⟩ := enter_eq_ok.mp enters
          exact (makeDirectory makes).trans (ih reached.2 reached.1)

theorem makeDirectories (files : Files) (directory : Place) (path : String) :
    Grown files (files.makeDirectories directory path).2 := by
  unfold Files.makeDirectories
  split
  · exact refl files
  · cases steps path with
    | error fault => exact refl files
    | ok names => exact makeAlong files _ names

theorem walk {names : List String} {start : Place} (grown : Grown files made)
    (walks : files.walk start names = .ok place) : made.walk start names = .ok place := by
  induction names generalizing start with
  | nil => exact walks
  | cons name rest ih =>
      obtain ⟨directory, next, follows, later⟩ := walk_cons.mp walks
      refine walk_cons.mpr ⟨?_, next, follows, ih later⟩
      obtain same | ⟨missing, -⟩ := grown start
      · rw [same, directory]
      · rw [missing] at directory
        cases directory

theorem locate {directory : Place} {path : String} (grown : Grown files made)
    (located : files.locate directory path = .ok place) :
    made.locate directory path = .ok place := by
  obtain ⟨names, given, walks⟩ := locate_iff.mp located
  exact locate_iff.mpr ⟨names, given, grown.walk walks⟩

end Grown

/-- Files of which each lies in a directory. -/
def Rooted (files : Files) : Prop :=
  ∀ place name entry,
    files.find? (place ++ [name]) = some entry → files.find? place = some .directory

theorem Rooted.below (rooted : Rooted files) (missing : files.find? place = none)
    (names : List String) : files.find? (place ++ names) = none := by
  induction names using List.reverseRecOn with
  | nil => rwa [List.append_nil]
  | append_singleton front last ih =>
      cases here : files.find? (place ++ (front ++ [last])) with
      | none => rfl
      | some entry =>
          rw [← List.append_assoc] at here
          rw [rooted _ _ _ here] at ih
          cases ih

theorem follow_descending {name : String} {start next : Place} (down : ".." ≠ name)
    (follows : follow start name = .ok next) : ∃ more, next = start ++ more := by
  unfold follow at follows
  split_ifs at follows with here above
  · cases follows
    exact ⟨[], (List.append_nil _).symm⟩
  · exact absurd above.symm down
  · cases follows
    exact ⟨[name], rfl⟩

theorem walk_descending {names : List String} {start : Place} (down : ".." ∉ names)
    (walks : files.walk start names = .ok place) : ∃ more, place = start ++ more := by
  induction names generalizing start with
  | nil =>
      cases walks
      exact ⟨[], (List.append_nil _).symm⟩
  | cons name rest ih =>
      obtain ⟨first, later⟩ := not_or.mp (mt List.mem_cons.mpr down)
      obtain ⟨-, next, follows, on⟩ := walk_cons.mp walks
      obtain ⟨front, rfl⟩ := follow_descending first follows
      obtain ⟨more, rfl⟩ := ih later on
      exact ⟨front ++ more, List.append_assoc start front more⟩

/-- On the way down new directories lead only to where nothing is. -/
theorem Grown.walk_down {names : List String} {start : Place} (grown : Grown files made)
    (rooted : Rooted files) (down : ".." ∉ names) (walks : made.walk start names = .ok place) :
    files.walk start names = .ok place ∨ files.find? place = none := by
  induction names generalizing start with
  | nil => exact .inl walks
  | cons name rest ih =>
      obtain same | ⟨missing, -⟩ := grown start
      · obtain ⟨directory, next, follows, on⟩ := walk_cons.mp walks
        obtain reaches | vacant := ih (mt (List.mem_cons_of_mem name) down) on
        · exact .inl (walk_cons.mpr ⟨same ▸ directory, next, follows, reaches⟩)
        · exact .inr vacant
      · obtain ⟨more, rfl⟩ := walk_descending down walks
        exact .inr (rooted.below missing more)

theorem steps_down {path : String} {names : List String} (given : steps path = .ok names)
    (down : ".." ∉ Path.names path) : ".." ∉ names := by
  simp only [steps] at given
  split_ifs at given
  · cases given
    simpa using down
  · cases given
    exact down

theorem Grown.locate_down {directory : Place} {path : String} (grown : Grown files made)
    (rooted : Rooted files) (down : ".." ∉ Path.names path)
    (located : made.locate directory path = .ok place) :
    files.locate directory path = .ok place ∨ files.find? place = none := by
  obtain ⟨names, given, walks⟩ := locate_iff.mp located
  refine (grown.walk_down rooted (steps_down given down) walks).imp_left fun reaches => ?_
  exact locate_iff.mpr ⟨names, given, reaches⟩

/-- Paths that new directories turn nowhere else: those that lead somewhere already, and those that
only lead down. -/
def Steady (files : Files) (directory : Place) (path : String) : Prop :=
  (∃ place, files.locate directory path = .ok place) ∨ (Rooted files ∧ ".." ∉ Path.names path)

theorem Steady.locate {directory : Place} {path : String} (steady : Steady files directory path)
    (grown : Grown files made) (located : made.locate directory path = .ok place) :
    files.locate directory path = .ok place ∨ files.find? place = none := by
  obtain ⟨other, leads⟩ | ⟨rooted, down⟩ := steady
  · have same := (grown.locate leads).symm.trans located
    cases same
    exact .inl leads
  · exact grown.locate_down rooted down located

end BoundSql.Files
