import BoundSql.Proofs.Outcome
import BoundSql.Proofs.Storage.Path
import Mathlib.Data.List.Infix

/-! Files that are written and read, and directories that are made on the way to them. -/
namespace BoundSql.Files
open Outcome

variable {files files' : Files} {place other : Place}

theorem lookup_other {key : Place} (apart : other ≠ key) (found : Entry)
    (rest : List (Place × Entry)) : ((key, found) :: rest).lookup other = rest.lookup other := by
  rw [List.lookup_cons, beq_eq_false_iff_ne.mpr apart]

theorem lookup_replaced (entries : List (Place × Entry)) (entry : Entry) :
    (entries.map fun e => if e.1 = place then (place, entry) else e).lookup other =
      if other = place then (entries.lookup place).map fun _ => entry
      else entries.lookup other := by
  induction entries with
  | nil => simp
  | cons e rest ih =>
      obtain ⟨key, found⟩ := e
      rw [List.map_cons]
      by_cases here : key = place
      · obtain rfl := here
        rw [if_pos rfl]
        by_cases same : other = key
        · rw [same, if_pos rfl, List.lookup_cons_self, List.lookup_cons_self, Option.map_some]
        · rw [if_neg same, lookup_other same, lookup_other same, ih, if_neg same]
      · rw [if_neg here, lookup_other (Ne.symm here)]
        by_cases same : other = key
        · rw [same, if_neg here, List.lookup_cons_self, List.lookup_cons_self]
        · rw [lookup_other same, lookup_other same, ih]

theorem lookup_isSome {entries : List (Place × Entry)} :
    (entries.lookup place).isSome = entries.any (·.1 = place) := by
  induction entries with
  | nil => rfl
  | cons e rest ih =>
      obtain ⟨key, found⟩ := e
      by_cases same : place = key
      · simp [same]
      · rw [lookup_other same, ih, List.any_cons]
        simp [Ne.symm same]

/-- The root is no place for anything else. -/
theorem inside_of_vacant (vacant : files.find? place ≠ some .directory) : place ≠ [] := by
  rintro rfl
  exact vacant rfl

theorem find?_put (inside : place ≠ []) (entry : Entry) (other : Place) :
    (files.put place entry).find? other =
      if other = place then some entry else files.find? other := by
  by_cases root : other = []
  · rw [root, if_neg (Ne.symm inside)]
    rfl
  have shown : ∀ files : Files, files.find? other = files.entries.lookup other := fun files => by
    rw [find?, List.isEmpty_eq_false_iff.mpr root]
    rfl
  rw [shown, shown]
  unfold put
  split
  · rename_i known
    rw [← lookup_isSome] at known
    obtain ⟨found, here⟩ := Option.isSome_iff_exists.mp known
    rw [lookup_replaced, here, Option.map_some]
  · rename_i new
    rw [← lookup_isSome, Option.not_isSome_iff_eq_none] at new
    rw [List.lookup_append]
    by_cases same : other = place
    · rw [same, new, if_pos rfl, Option.none_or, List.lookup_cons_self]
    · rw [if_neg same, lookup_other same, List.lookup_nil, Option.or_none]

/-- A name leads on from a directory only. -/
theorem walk_cons {name : String} {rest : List String} {start : Place} :
    files.walk start (name :: rest) = .ok place ↔
      files.find? start = some .directory ∧
        ∃ next, follow start name = .ok next ∧ files.walk next rest = .ok place := by
  rw [walk]
  rcases files.find? start with _ | _ | content
  · exact ⟨nofun, nofun⟩
  · exact bind_ok.trans (and_iff_right rfl).symm
  · exact ⟨nofun, nofun⟩

theorem walk_append {names : List String} {start : Place}
    (walks : files.walk start names = .ok place) (more : List String) :
    files.walk start (names ++ more) = files.walk place more := by
  induction names generalizing start with
  | nil =>
      cases walks
      rfl
  | cons name rest ih =>
      obtain ⟨directory, next, follows, later⟩ := walk_cons.mp walks
      rw [List.cons_append, walk, directory]
      simp only [follows, bind, Except.bind]
      exact ih later

/-- Where a directory is missing, nothing about the names below it matters, not even their sizes. -/
theorem walk_missing {names : List String} {start : Place}
    (walks : files.walk start names = .ok place) (missing : files.find? place = none)
    (name : String) (rest : List String) :
    files.walk start (names ++ name :: rest) = .error .missing := by
  rw [walk_append walks, walk, missing]

/-- A file at the end of the way leaves the way to it as it is, since all before are directories. -/
theorem walk_put {names : List String} {start : Place} (walks : files.walk start names = .ok place)
    (vacant : files.find? place ≠ some .directory) (content : String) :
    (files.put place (.file content)).walk start names = .ok place := by
  have inside := inside_of_vacant vacant
  induction names generalizing start with
  | nil => exact walks
  | cons name rest ih =>
      obtain ⟨directory, next, follows, later⟩ := walk_cons.mp walks
      have before : start ≠ place := by
        rintro rfl
        exact vacant directory
      refine walk_cons.mpr ⟨?_, next, follows, ih later⟩
      rw [find?_put inside, if_neg before, directory]

theorem locate_iff {directory : Place} {path : String} :
    files.locate directory path = .ok place ↔ ∃ names, steps path = .ok names ∧
      files.walk (if Path.isAbsolute path then [] else directory) names = .ok place :=
  bind_ok

theorem locate_put {directory : Place} {path : String}
    (located : files.locate directory path = .ok place)
    (vacant : files.find? place ≠ some .directory) (content : String) :
    (files.put place (.file content)).locate directory path = .ok place := by
  obtain ⟨names, given, walks⟩ := locate_iff.mp located
  exact locate_iff.mpr ⟨names, given, walk_put walks vacant content⟩

theorem write_ok {directory : Place} {path content : String} :
    files.write directory path content = .ok files' ↔
      ∃ place, files.locate directory path = .ok place ∧ files.find? place ≠ some .directory ∧
        files' = files.put place (.file content) := by
  unfold write
  cases files.locate directory path with
  | error fault => exact ⟨nofun, nofun⟩
  | ok place =>
      simp only [bind, Except.bind, Except.ok.injEq, exists_eq_left']
      split
      · rename_i directory
        exact ⟨nofun, fun ⟨vacant, _⟩ => absurd directory vacant⟩
      · rename_i vacant
        constructor
        · rintro ⟨⟩
          exact ⟨vacant, rfl⟩
        · rintro ⟨-, rfl⟩
          rfl

/-- What is written to a path is read from it. -/
theorem read_of_write {directory : Place} {path content : String}
    (written : files.write directory path content = .ok files') :
    files'.read directory path = .ok content := by
  obtain ⟨place, located, vacant, rfl⟩ := write_ok.mp written
  have inside := inside_of_vacant vacant
  rw [read, locate_put located vacant]
  simp only [bind, Except.bind, find?_put inside, if_true]
  rfl

section Ways
variable {names : List String} {start : Place}

theorem follow_name {name : String} (plain : Path.IsName name) :
    follow place name = .ok (place ++ [name]) := by
  rw [follow, if_neg plain.here, if_neg plain.above, if_neg (Nat.not_lt.mpr plain.short)]

theorem append_singleton_append (name : String) (front : List String) :
    start ++ [name] ++ front = start ++ name :: front := by
  rw [List.append_assoc, List.singleton_append]

theorem forall_prefix_cons {p : List String → Prop} {name : String} :
    (∀ front, front <+: name :: names → p front) ↔
      p [] ∧ ∀ front, front <+: names → p (name :: front) := by
  constructor
  · intro all
    exact ⟨all [] List.nil_prefix, fun front inside =>
      all _ (List.cons_prefix_cons.mpr ⟨rfl, inside⟩)⟩
  · rintro ⟨itself, more⟩ front inside
    cases front with
    | nil => exact itself
    | cons first front =>
        obtain ⟨rfl, later⟩ := List.cons_prefix_cons.mp inside
        exact more front later

/-- Along directories names lead to the place that they name. -/
theorem walk_directories {last : String} (plain : ∀ name ∈ names ++ [last], Path.IsName name)
    (directories : ∀ front, front <+: names → files.find? (start ++ front) = some .directory) :
    files.walk start (names ++ [last]) = .ok (start ++ names ++ [last]) := by
  induction names generalizing start with
  | nil =>
      have here := directories [] (List.prefix_refl [])
      rw [List.append_nil] at here
      rw [List.nil_append, List.append_nil]
      exact walk_cons.mpr ⟨here, _, follow_name (plain last (List.mem_singleton.mpr rfl)), rfl⟩
  | cons name rest ih =>
      obtain ⟨here, below⟩ := forall_prefix_cons.mp directories
      rw [List.append_nil] at here
      obtain ⟨first, later⟩ := List.forall_mem_cons.mp plain
      have along : files.walk (start ++ [name]) (rest ++ [last]) = _ :=
        ih later fun front inside => by
          rw [append_singleton_append]
          exact below front inside
      rw [append_singleton_append] at along
      exact walk_cons.mpr ⟨here, _, follow_name first, along⟩

/-- What making the directories on a way comes to: they are there, and nothing else changes. -/
structure Made (files made : Files) (start : Place) (names : List String) : Prop where
  directories : ∀ front, front <+: names → made.find? (start ++ front) = some .directory
  kept : ∀ other, (∀ front, front <+: names → other ≠ start ++ front) →
    made.find? other = files.find? other

theorem made_nil {made : Files} (here : made.find? start = some .directory)
    (others : ∀ other, other ≠ start → made.find? other = files.find? other) :
    Made files made start [] := by
  constructor
  · simpa only [List.prefix_nil, forall_eq, List.append_nil] using here
  · simpa only [List.prefix_nil, forall_eq, List.append_nil] using others

theorem makeDirectory_ok (free : ∀ content, files.find? start ≠ some (.file content)) :
    ∃ made, files.makeDirectory start = .ok made ∧ Made files made start [] := by
  unfold makeDirectory
  split
  · rename_i directory
    exact ⟨files, rfl, made_nil directory fun _ _ => rfl⟩
  · rename_i content file
    exact absurd file (free content)
  · rename_i missing
    have inside : start ≠ [] := inside_of_vacant (by rw [missing]; exact nofun)
    refine ⟨_, rfl, made_nil ?_ fun other apart => ?_⟩
    · rw [find?_put inside, if_pos rfl]
    · rw [find?_put inside, if_neg apart]

theorem ne_descendant (name : String) (front : List String) : start ≠ start ++ name :: front := by
  intro same
  have longer := congrArg List.length same
  rw [List.length_append, List.length_cons] at longer
  omega

/-- The directories further down leave the one that they start from as it is. -/
theorem Made.cons {made all : Files} {name : String}
    (later : Made made all (start ++ [name]) names) (begins : files.find? start = some .directory)
    (first : Made files made (start ++ [name]) []) : Made files all start (name :: names) := by
  have below := later.directories
  have kept := later.kept
  simp only [append_singleton_append] at below kept
  have before : ∀ other, other ≠ start ++ [name] → made.find? other = files.find? other := by
    intro other apart
    refine first.kept other fun front inside => ?_
    rwa [List.prefix_nil.mp inside, List.append_nil]
  constructor
  · rw [forall_prefix_cons, List.append_nil, kept start fun front _ => ne_descendant name front,
      before start (ne_descendant name [])]
    exact ⟨begins, below⟩
  · intro other apart
    obtain ⟨-, apart⟩ := forall_prefix_cons.mp apart
    rw [kept other apart, before other (apart [] List.nil_prefix)]

theorem enter_eq_ok {name : String} {next : Place} {made : Files} :
    files.enter start name = .ok (next, made) ↔
      files.walk start [name] = .ok next ∧ files.makeDirectory next = .ok made := by
  rw [enter, bind_ok]
  simp only [bind_ok, pure_ok, Prod.mk.injEq]
  constructor
  · rintro ⟨_, walks, _, makes, rfl, rfl⟩
    exact ⟨walks, makes⟩
  · rintro ⟨walks, makes⟩
    exact ⟨next, walks, made, makes, rfl, rfl⟩

/-- Where no file is in the way, a name leads to a directory that is then there. -/
theorem enter_ok {name : String} (plain : Path.IsName name)
    (begins : files.find? start = some .directory)
    (free : ∀ content, files.find? (start ++ [name]) ≠ some (.file content)) :
    ∃ made, files.enter start name = .ok (start ++ [name], made) ∧
      Made files made (start ++ [name]) [] := by
  obtain ⟨made, makes, here⟩ := makeDirectory_ok free
  have walks : files.walk start [name] = .ok (start ++ [name]) :=
    walk_cons.mpr ⟨begins, _, follow_name plain, rfl⟩
  exact ⟨made, enter_eq_ok.mpr ⟨walks, makes⟩, here⟩

/-- Where no file is in the way, all directories on it are made. -/
theorem makeAlong_ok (plain : ∀ name ∈ names, Path.IsName name)
    (begins : files.find? start = some .directory)
    (free : ∀ front, front <+: names → ∀ content,
      files.find? (start ++ front) ≠ some (.file content)) :
    ∃ made, files.makeAlong start names = (.ok (), made) ∧ Made files made start names := by
  induction names generalizing start files with
  | nil => exact ⟨files, rfl, made_nil begins fun _ _ => rfl⟩
  | cons name rest ih =>
      obtain ⟨first, later⟩ := List.forall_mem_cons.mp plain
      obtain ⟨-, free⟩ := forall_prefix_cons.mp free
      obtain ⟨made, enters, here⟩ := enter_ok first begins (free [] List.nil_prefix)
      have begins' := here.directories [] (List.prefix_refl [])
      rw [List.append_nil] at begins'
      have free' : ∀ front, front <+: rest → ∀ content,
          made.find? (start ++ [name] ++ front) ≠ some (.file content) := by
        intro front inside content
        cases front with
        | nil =>
            rw [List.append_nil, begins']
            exact nofun
        | cons next more =>
            rw [here.kept, append_singleton_append]
            · exact free (next :: more) inside content
            · intro before empty
              rw [List.prefix_nil.mp empty, List.append_nil]
              exact Ne.symm (ne_descendant next more)
      obtain ⟨all, along, below⟩ := ih later begins' free'
      refine ⟨all, ?_, below.cons begins here⟩
      rw [makeAlong, enters]
      exact along

/-- Where the names of a path start. -/
def origin (absolute : Bool) (directory : Place) : Place := if absolute then [] else directory

/-- A way to a place for a file: it starts at a directory, no file is on it, and no directory lies
at its end. -/
structure Open (files : Files) (start : Place) (names : List String) (last : String) : Prop where
  begins : files.find? start = some .directory
  unblocked : ∀ front, front <+: names → ∀ content,
    files.find? (start ++ front) ≠ some (.file content)
  vacant : files.find? (start ++ names ++ [last]) ≠ some .directory

/-- Where there is nothing, nothing is in the way. -/
theorem open_empty (names : List String) (last : String) : Open {} [] names last := by
  have vacant : ∀ place, place ≠ [] → find? {} place = none := by
    intro place inside
    rw [find?, List.isEmpty_eq_false_iff.mpr inside]
    rfl
  refine ⟨rfl, fun front _ content => ?_, ?_⟩
  · cases front with
    | nil => exact nofun
    | cons name rest =>
        rw [List.nil_append, vacant _ (List.cons_ne_nil name rest)]
        exact nofun
  · rw [vacant _ (List.append_ne_nil_of_right_ne_nil _ (List.cons_ne_nil last []))]
    exact nofun

theorem makeDirectories_nil (absolute : Bool) (directory : Place) :
    files.makeDirectories directory (Path.ofNames absolute []) = (.ok (), files) := by
  cases absolute with
  | false => rfl
  | true => rfl

theorem makeDirectories_open {absolute : Bool} {directory : Place} {last : String}
    (plain : ∀ name ∈ names, Path.IsName name)
    (short : (Path.ofNames absolute names).utf8ByteSize ≤ pathLimit)
    (opens : Open files (origin absolute directory) names last) :
    ∃ made, files.makeDirectories directory (Path.ofNames absolute names) = (.ok (), made) ∧
      (∀ front, front <+: names →
        made.find? (origin absolute directory ++ front) = some .directory) ∧
      made.find? (origin absolute directory ++ names ++ [last]) ≠ some .directory := by
  rcases List.eq_nil_or_concat' names with rfl | ⟨before, final, rfl⟩
  · refine ⟨files, makeDirectories_nil absolute directory, fun front inside => ?_, opens.vacant⟩
    rw [List.prefix_nil.mp inside, List.append_nil]
    exact opens.begins
  · obtain ⟨made, along, all⟩ := makeAlong_ok plain opens.begins opens.unblocked
    refine ⟨made, ?_, all.directories, ?_⟩
    · have inside := plain final (List.mem_append_right _ (List.mem_singleton.mpr rfl))
      rw [makeDirectories, if_neg (Path.present_ofNames absolute before inside),
        Path.steps_ofNames absolute plain short, Path.isAbsolute_ofNames absolute plain]
      exact along
    · rw [all.kept]
      · exact opens.vacant
      · intro front inside same
        have longer := inside.length_le
        have sizes := congrArg List.length same
        simp only [List.length_append, List.length_singleton] at longer sizes
        omega

/-- On an open way the directories are made, and then the file is written. -/
theorem write_open {absolute : Bool} {directory : Place} {last : String}
    (plain : ∀ name ∈ names ++ [last], Path.IsName name)
    (short : (Path.ofNames absolute (names ++ [last])).utf8ByteSize ≤ pathLimit)
    (opens : Open files (origin absolute directory) names last) (content : String) :
    ∃ made written,
      files.makeDirectories directory (Path.ofNames absolute names) = (.ok (), made) ∧
      made.write directory (Path.ofNames absolute (names ++ [last])) content = .ok written := by
  obtain ⟨before, -⟩ := List.forall_mem_append.mp plain
  have shorter := (Path.utf8ByteSize_ofNames_le absolute names last).trans short
  obtain ⟨made, makes, directories, vacant⟩ := makeDirectories_open before shorter opens
  refine ⟨made, _, makes, write_ok.mpr ⟨_, ?_, vacant, rfl⟩⟩
  rw [locate, Path.steps_ofNames absolute plain short, Path.isAbsolute_ofNames absolute plain]
  exact walk_directories plain directories

end Ways

end BoundSql.Files
