import TraceGloss.CommandLine.FileTree

/-!
# Writing a file

A write changes one file of a tree and no directory. The file then holds the
text, and what any path that does not lead to it leads to is as it was. Paths
are walked through directories alone, so a write leads no path astray.
-/

namespace TraceGloss.CommandLine

set_option autoImplicit false

theorem bind_eq_ok_iff {ε α β : Type} {first : Except ε α} {next : α → Except ε β} {result : β} :
    first >>= next = .ok result ↔ ∃ value, first = .ok value ∧ next value = .ok result := by
  cases first with
  | error fault => simp [bind, Except.bind]
  | ok value => simp [bind, Except.bind]

namespace FileTree

/-- A path leads to these names, whether or not there is a file. -/
def Leads (tree : FileTree) (path : Text) (names : Names) : Prop :=
  ∃ steps, pathOf path = .ok steps ∧ tree.walk steps.start steps.steps = .ok names

/-- Two trees that differ in one file at most. -/
structure SameElsewhere (names : Names) (before after : FileTree) : Prop where
  directories : after.directories = before.directories
  files : ∀ other, other ≠ names → after.files.lookup other = before.files.lookup other

variable {tree before after : FileTree} {names : Names} {path text : Text}

theorem SameElsewhere.symm (same : SameElsewhere names before after) :
    SameElsewhere names after before :=
  ⟨same.directories.symm, fun other apart => (same.files other apart).symm⟩

theorem has_directory_congr (same : after.directories = before.directories) (names : Names) :
    after.hasDirectory names = before.hasDirectory names := by
  rw [hasDirectory, hasDirectory, same]

section Walking

theorem enter_eq_ok_iff {here next : Names} {step : Text} :
    tree.enter here step = .ok next ↔
      tree.hasDirectory here = true ∧ Text.length8 step ≤ maxStepBytes ∧
        Path.next here step = next := by
  unfold enter
  split
  · next directory =>
      split
      · next long => simp [directory, Nat.not_le_of_lt long]
      · next short => simp [directory, Nat.le_of_not_lt short]
  · next other =>
      split <;> simp [other]

theorem enter_congr (same : after.directories = before.directories) {here next : Names}
    {step : Text} (entered : before.enter here step = .ok next) :
    after.enter here step = .ok next := by
  rw [enter_eq_ok_iff] at entered ⊢
  rwa [has_directory_congr same]

theorem walk_congr (same : after.directories = before.directories) {here : Names}
    {steps : List Text} (walked : before.walk here steps = .ok names) :
    after.walk here steps = .ok names := by
  induction steps generalizing here with
  | nil => exact walked
  | cons step more ih =>
      obtain ⟨next, entered, onward⟩ := bind_eq_ok_iff.mp walked
      rw [walk, enter_congr same entered]
      exact ih onward

theorem walk_concat (tree : FileTree) (here : Names) (steps : List Text) (last : Text) :
    tree.walk here (steps ++ [last]) =
      (tree.walk here steps).bind fun next => tree.enter next last := by
  induction steps generalizing here with
  | nil =>
      change (tree.enter here last).bind (fun next => .ok next) = tree.enter here last
      cases tree.enter here last <;> rfl
  | cons step more ih =>
      rw [List.cons_append, walk, walk]
      cases tree.enter here step with
      | error fault => rfl
      | ok next => exact ih next

theorem Leads.congr (same : after.directories = before.directories)
    (leads : before.Leads path names) : after.Leads path names := by
  obtain ⟨steps, found, walked⟩ := leads
  exact ⟨steps, found, walk_congr same walked⟩

end Walking

section Entries

theorem entry_of_file {steps : Path} {content : Content} (found : pathOf path = .ok steps)
    (walked : tree.walk steps.start steps.steps = .ok names)
    (held : tree.files.lookup names = some content) (unslashed : steps.slashed = false) :
    tree.entry path = .ok (.file content) := by
  simp only [entry, found, walked, held, unslashed, bind, Except.bind]
  rfl

theorem entry_elsewhere (same : SameElsewhere names before after)
    (elsewhere : ¬ before.Leads path names) {entry : Entry}
    (found : before.entry path = .ok entry) : after.entry path = .ok entry := by
  obtain ⟨steps, located, walking⟩ := bind_eq_ok_iff.mp found
  obtain ⟨other, walked, held⟩ := bind_eq_ok_iff.mp walking
  have apart : other ≠ names := by
    rintro rfl
    exact elsewhere ⟨steps, located, walked⟩
  refine bind_eq_ok_iff.mpr ⟨steps, located, bind_eq_ok_iff.mpr
    ⟨other, walk_congr same.directories walked, ?_⟩⟩
  rw [same.files other apart, has_directory_congr same.directories]
  exact held

/-- Paths that do not lead to the one file lead to the same in both trees. -/
theorem entry_elsewhere_iff (same : SameElsewhere names before after)
    (elsewhere : ¬ before.Leads path names) {entry : Entry} :
    after.entry path = .ok entry ↔ before.entry path = .ok entry := by
  constructor
  · apply entry_elsewhere same.symm
    exact fun leads => elsewhere (leads.congr same.directories.symm)
  · exact entry_elsewhere same elsewhere

end Entries

section Writing

theorem lookup_put (tree : FileTree) (names : Names) (text : Text) :
    (tree.put names text).files.lookup names = some (.text text) := by
  simp [put]

theorem lookup_without {files : List (Names × Content)} {other : Names} (apart : other ≠ names) :
    (files.filter fun file => file.1 ≠ names).lookup other = files.lookup other := by
  induction files with
  | nil => rfl
  | cons file files ih =>
      by_cases here : file.1 = names
      · have different : (other == file.1) = false := by simpa [here] using apart
        rw [List.filter_cons_of_neg (by simpa using here), ih, List.lookup_cons, different]
      · rw [List.filter_cons_of_pos (by simpa using here), List.lookup_cons, List.lookup_cons, ih]

theorem put_elsewhere (tree : FileTree) (names : Names) (text : Text) :
    SameElsewhere names tree (tree.put names text) := by
  refine ⟨rfl, fun other apart => ?_⟩
  have different : (other == names) = false := by simpa using apart
  rw [put, List.lookup_cons, different]
  exact lookup_without apart

/-- What is written to is reached through directories, and no slash ends its
path. -/
theorem target_leads (found : tree.target path = .ok names) :
    ∃ steps, pathOf path = .ok steps ∧ tree.walk steps.start steps.steps = .ok names ∧
      steps.slashed = false := by
  obtain ⟨steps, located, found⟩ := bind_eq_ok_iff.mp found
  refine ⟨steps, located, ?_⟩
  cases ends : steps.steps.getLast? with
  | none => simp [ends] at found
  | some last =>
      simp only [ends] at found
      obtain ⟨here, walked, found⟩ := bind_eq_ok_iff.mp found
      split at found
      · simp at found
      · next free =>
          obtain ⟨there, entered, found⟩ := bind_eq_ok_iff.mp found
          split at found
          · simp at found
          · obtain rfl : there = names := Except.ok.inj found
            have directory := (enter_eq_ok_iff.mp entered).1
            obtain ⟨front, same⟩ := List.getLast?_eq_some_iff.mp ends
            constructor
            · rw [same, List.dropLast_concat] at walked
              rw [same, walk_concat, walked]
              exact entered
            · cases slashed : steps.slashed with
              | false => rfl
              | true => exact absurd ⟨directory, Or.inl slashed⟩ free

theorem write_eq_ok_iff {files : FileTree} :
    tree.write path text = .ok files ↔
      ∃ names, tree.target path = .ok names ∧ files = tree.put names text := by
  unfold write
  cases tree.target path with
  | error fault => simp [Except.map]
  | ok names => simp [Except.map, eq_comm]

/-- Whether a write succeeds, and else how it fails, is settled before the text
matters. -/
theorem write_eq_error_iff {fault : FileFault} :
    tree.write path text = .error fault ↔ tree.target path = .error fault := by
  unfold write
  cases tree.target path <;> simp [Except.map]

/-- A tree in which a file has got a text, and nothing else has changed. -/
structure Overwrites (names : Names) (path text : Text) (before after : FileTree) : Prop where
  leads : before.Leads path names
  written : after.read path = .ok text
  elsewhere : SameElsewhere names before after
  paths : ∀ other entry, ¬ before.Leads other names →
    (after.entry other = .ok entry ↔ before.entry other = .ok entry)

theorem write_overwrites {files : FileTree} (written : tree.write path text = .ok files) :
    ∃ names, Overwrites names path text tree files := by
  obtain ⟨names, found, rfl⟩ := write_eq_ok_iff.mp written
  obtain ⟨steps, located, walked, unslashed⟩ := target_leads found
  have elsewhere := put_elsewhere tree names text
  have held : (tree.put names text).entry path = .ok (.file (.text text)) :=
    entry_of_file located (walk_congr elsewhere.directories walked) (lookup_put tree names text)
      unslashed
  refine ⟨names, ⟨steps, located, walked⟩, ?_, elsewhere, ?_⟩
  · rw [read, held]
  · exact fun other entry apart => entry_elsewhere_iff elsewhere apart

end Writing

end FileTree

end TraceGloss.CommandLine
