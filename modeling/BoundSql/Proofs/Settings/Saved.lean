import BoundSql.Proofs.Settings.Annotated
import BoundSql.Proofs.Settings.Load
import BoundSql.Proofs.Storage.Absent

/-! Settings that are saved and loaded. The file gives back what resolving the settings gives. -/
namespace BoundSql.Settings
open Files

/-- What comes of making the directories that a path needs, and the files after that. -/
def makeParent (files : Files) (directory : Place) (path : String) :
    Except AccessFault Unit × Files :=
  match Path.parent? path with
  | some parent => files.makeDirectories directory parent
  | none => (.ok (), files)

/-- What comes of writing settings to a path, and the files after that. -/
def writeTo (s : Settings) (files : Files) (directory : Place) (path : String) :
    Except Fault Unit × Files :=
  match files.write directory path s.annotated with
  | .error _ => (.error .inaccessible, files)
  | .ok written => (.ok (), written)

/-- What comes of saving settings to a path, and the files after that. -/
def savedTo (s : Settings) (files : Files) (directory : Place) (path : String) :
    Except Fault Unit × Files :=
  match makeParent files directory path with
  | (.error _, made) => (.error .inaccessible, made)
  | (.ok (), made) => s.writeTo made directory path

section Outcomes
variable {s : Settings} {files : Files} {directory : Place} {path : String}

theorem grown_makeParent (files : Files) (directory : Place) (path : String) :
    Grown files (makeParent files directory path).2 := by
  unfold makeParent
  split
  · exact Grown.makeDirectories files directory _
  · exact Grown.refl files

/-- The ways in which a save ends. -/
theorem savedTo_cases (s : Settings) (files : Files) (directory : Place) (path : String) :
    (∃ made, Grown files made ∧ s.savedTo files directory path = (.error .inaccessible, made)) ∨
      ∃ made written, Grown files made ∧ made.write directory path s.annotated = .ok written ∧
        s.savedTo files directory path = (.ok (), written) := by
  have grown := grown_makeParent files directory path
  unfold savedTo writeTo
  generalize makeParent files directory path = begun at grown ⊢
  obtain ⟨outcome, made⟩ := begun
  cases outcome with
  | error fault => exact .inl ⟨made, grown, rfl⟩
  | ok =>
      dsimp only
      cases writes : made.write directory path s.annotated with
      | error fault => exact .inl ⟨made, grown, rfl⟩
      | ok written => exact .inr ⟨made, written, grown, writes, rfl⟩

theorem savedTo_open {absolute : Bool} {names : List String} {last : String}
    (plain : ∀ name ∈ names ++ [last], Path.IsName name)
    (short : (Path.ofNames absolute (names ++ [last])).utf8ByteSize ≤ pathLimit)
    (opens : Open files (origin absolute directory) names last) :
    (s.savedTo files directory (Path.ofNames absolute (names ++ [last]))).1 = .ok () := by
  obtain ⟨made, written, makes, writes⟩ := write_open plain short opens s.annotated
  unfold savedTo makeParent writeTo
  rw [Path.parent?_ofNames absolute plain]
  dsimp only
  rw [makes]
  dsimp only
  rw [writes]

/-- A save that succeeds leaves a file with the text of the settings. -/
theorem read_savedTo (saved : (s.savedTo files directory path).1 = .ok ()) :
    (s.savedTo files directory path).2.read directory path = .ok s.annotated := by
  obtain ⟨made, -, ends⟩ | ⟨made, written, -, writes, ends⟩ := s.savedTo_cases files directory path
  · rw [ends] at saved
    cases saved
  · rw [ends]
    exact read_of_write writes

end Outcomes

/-- The rest of a save, after the attempt to make the directories. -/
def finish (machine : Machine (StateM World)) (s : Settings) (path : String) :
    Except AccessFault Unit → StateM World (Except Fault Unit)
  | .error _ => return .error .inaccessible
  | .ok () => do
    match ← machine.write path s.annotated with
    | .error _ => return .error .inaccessible
    | .ok () =>
      machine.note ⟨.info, "Configuration saved to " ++ path, []⟩
      return .ok ()

theorem finish_ok (s : Settings) (path : String) (w : World) :
    (finish World.machine s path (.ok ())).run w =
      let left := s.writeTo w.files w.directory path
      (left.1, { w with files := left.2 }) := by
  have writes : (World.machine.write path s.annotated).run w =
    World.change (fun w => w.files.write w.directory path s.annotated) w := rfl
  rw [finish, StateT.run_bind, writes, World.change, writeTo]
  cases w.files.write w.directory path s.annotated <;> rfl

/-- A save makes the directories and then writes the text of the settings. -/
theorem save_world (s : Settings) (path : String) (w : World) :
    (s.save World.machine path).run w =
      let left := s.savedTo w.files w.directory path
      (left.1, { w with files := left.2 }) := by
  unfold save savedTo makeParent
  cases Path.parent? path with
  | none => exact finish_ok s path w
  | some parent =>
      change (World.machine.makeDirectories parent >>= finish World.machine s path).run w = _
      have makes : (World.machine.makeDirectories parent).run w =
        let made := w.files.makeDirectories w.directory parent
        (made.1, { w with files := made.2 }) := rfl
      rw [StateT.run_bind, makes]
      dsimp only
      obtain ⟨outcome, made⟩ := w.files.makeDirectories w.directory parent
      cases outcome with
      | error fault => rfl
      | ok => exact finish_ok s path { w with files := made }

variable {s : Settings} {path : String} {w w' : World}

theorem load_of_save (saved : (s.save World.machine path).run w = (.ok (), w')) :
    (load World.machine path).run w' = (s.resolve, w') := by
  rw [save_world] at saved
  obtain ⟨done, rfl⟩ := Prod.mk.inj saved
  rw [load_world, read_savedTo done, ofFile, ofText?_annotated]

/-- On an open way nothing keeps settings from being saved. -/
theorem save_open {absolute : Bool} {names : List String} {last : String}
    (plain : ∀ name ∈ names ++ [last], Path.IsName name)
    (short : (Path.ofNames absolute (names ++ [last])).utf8ByteSize ≤ pathLimit)
    (opens : Open w.files (origin absolute w.directory) names last) :
    ∃ w', (s.save World.machine (Path.ofNames absolute (names ++ [last]))).run w =
      (.ok (), w') := by
  refine ⟨_, (save_world ..).trans (Prod.ext (savedTo_open plain short opens) rfl)⟩

section Resolved

theorem resolve_limits (s : Settings) :
    s.resolve = s.limits.map fun limits => ⟨some limits.maxBatchRows, some limits.pageSize⟩ := by
  have holds := s.resolve_holds
  generalize s.resolve = resolved at holds ⊢
  generalize s.limits = limits at holds ⊢
  cases holds with
  | error fault => rfl
  | ok holds => exact congrArg Except.ok holds.set

/-- Resolved settings are resolved for good. -/
theorem resolve_resolve {resolved : Settings} (first : s.resolve = .ok resolved) :
    resolved.resolve = .ok resolved := by
  have holds := s.resolve_holds
  rw [first] at holds
  generalize s.limits = limits at holds
  cases holds with
  | ok holds =>
      rw [resolve_limits, holds.set, limits_of_set, if_neg (UInt64.pos_iff_ne_zero.mp holds.rows),
        if_neg (UInt64.pos_iff_ne_zero.mp holds.page)]
      rfl

theorem get_run {α : Type} (next : Settings → ExceptT Fault (StateM Settings) α) (s : Settings) :
    (get >>= next).run.run s = (next s).run.run s := rfl

/-- Settings with a fault are left as they are. -/
theorem resolveInPlace_run (s : Settings) :
    resolveInPlace.run.run s =
      match s.resolve with
      | .ok resolved => (.ok (), resolved)
      | .error fault => (.error fault, s) := by
  unfold resolve resolveInPlace
  rw [get_run]
  by_cases rows : s.maxBatchRows = some 0
  · rw [if_pos rows, if_pos rows]
    rfl
  · rw [if_neg rows, if_neg rows, get_run]
    by_cases page : s.pageSize = some 0
    · rw [if_pos page, if_pos page]
      rfl
    · rw [if_neg page, if_neg page]
      rfl

theorem resolveInPlace_again (s : Settings) :
    resolveInPlace.run.run (resolveInPlace.run.run s).2 = resolveInPlace.run.run s := by
  rw [resolveInPlace_run s]
  cases resolved : s.resolve with
  | error fault => rw [resolveInPlace_run, resolved]
  | ok r => rw [resolveInPlace_run, resolve_resolve resolved]

end Resolved

/-- Settings come back from the text that they are written as, and from a file as what resolving
makes of them. A save succeeds wherever the way to the file is open. Resolving finds the first zero,
or else fills in 100 and 20, leaves settings with a fault as they are, and does nothing when it is
repeated. -/
theorem save_load (s : Settings) :
    ofText? s.annotated = some s ∧
      (∀ path w w', (s.save World.machine path).run w = (.ok (), w') →
        (load World.machine path).run w' = (s.resolve, w')) ∧
      (∀ absolute names last w, (∀ name ∈ names ++ [last], Path.IsName name) →
        (Path.ofNames absolute (names ++ [last])).utf8ByteSize ≤ pathLimit →
        Open w.files (origin absolute w.directory) names last →
        ∃ w', (s.save World.machine (Path.ofNames absolute (names ++ [last]))).run w =
          (.ok (), w')) ∧
      (s.resolve =
        s.limits.map fun limits => ⟨some limits.maxBatchRows, some limits.pageSize⟩) ∧
      (resolveInPlace.run.run s =
        match s.resolve with
        | .ok resolved => (.ok (), resolved)
        | .error fault => (.error fault, s)) ∧
      resolveInPlace.run.run (resolveInPlace.run.run s).2 = resolveInPlace.run.run s :=
  ⟨ofText?_annotated s, fun _ _ _ => load_of_save, fun _ _ _ _ => save_open, resolve_limits s,
    resolveInPlace_run s, resolveInPlace_again s⟩

/-- Settings that leave the page size open come back with it, from a directory that is made for
them. -/
theorem save_load_nested :
    ∃ w', (save World.machine ⟨some 7, none⟩ "nested/config.toml").run {} = (.ok (), w') ∧
      (load World.machine "nested/config.toml").run w' = (.ok ⟨some 7, some 20⟩, w') := by
  obtain ⟨-, loads, saves, -⟩ := save_load ⟨some 7, none⟩
  obtain ⟨w', saved⟩ := saves false ["nested"] "config.toml" {} (by decide) (by decide)
    (open_empty ["nested"] "config.toml")
  exact ⟨w', saved, loads _ _ _ saved⟩

end BoundSql.Settings
