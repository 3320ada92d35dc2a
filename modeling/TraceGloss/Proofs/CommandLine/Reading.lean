import TraceGloss.CommandLine.Run
import TraceGloss.Proofs.CommandLine.Writing

/-!
# What a run reads

A file is read where its path leads, if every step starts in a directory and a
text is there. The traceback is such a file, or what is typed in, and the source
is such a file, or empty. The settings are what the deciding file gives: it has
to be there, to be read as text, to be a document, and to hold settings that are
valid. Each of these is told here by what the machine holds, and what a run
reads is exactly that.
-/

namespace TraceGloss.CommandLine

set_option autoImplicit false

/-- What reading a path gives: the text that is there, or why there is none. -/
inductive ReadsFile (tree : FileTree) (path : Text) : Except FileFault Text → Prop where
  | content {names : Names} {text : Text} (leads : tree.Leads path names)
      (unslashed : path.getLast? ≠ some '/') (held : tree.files.lookup names = some (.text text)) :
      ReadsFile tree path (.ok text)
  | notText {names : Names} (leads : tree.Leads path names)
      (unslashed : path.getLast? ≠ some '/') (held : tree.files.lookup names = some .bytes) :
      ReadsFile tree path (.error .notText)
  | slashed {names : Names} {content : Content} (leads : tree.Leads path names)
      (slashed : path.getLast? = some '/') (held : tree.files.lookup names = some content) :
      ReadsFile tree path (.error .notDirectory)
  | directory {names : Names} (leads : tree.Leads path names)
      (free : tree.files.lookup names = none) (there : tree.hasDirectory names = true) :
      ReadsFile tree path (.error .isDirectory)
  | missing {names : Names} (leads : tree.Leads path names)
      (free : tree.files.lookup names = none) (absent : tree.hasDirectory names = false) :
      ReadsFile tree path (.error .notFound)
  | astray {steps : Path} {fault : FileFault} (found : FileTree.pathOf path = .ok steps)
      (lost : tree.walk steps.start steps.steps = .error fault) :
      ReadsFile tree path (.error fault)
  | noPath {fault : FileFault} (unfit : FileTree.pathOf path = .error fault) :
      ReadsFile tree path (.error fault)

/-- What the path of a traceback gives. A hyphen stands for what is typed in. -/
inductive ReadsTraceback (machine : Machine) : Text → Except Failure Text → Prop where
  | typed {text : Text} (given : machine.input = .text text) :
      ReadsTraceback machine "-".toList (.ok text)
  | typedBytes (given : machine.input = .bytes) :
      ReadsTraceback machine "-".toList (.error (.file .notText))
  | stored {path text : Text} (named : path ≠ "-".toList)
      (read : ReadsFile machine.files path (.ok text)) : ReadsTraceback machine path (.ok text)
  | unread {path : Text} {fault : FileFault} (named : path ≠ "-".toList)
      (read : ReadsFile machine.files path (.error fault)) :
      ReadsTraceback machine path (.error (.file fault))

/-- What the path of a source gives, if there is any. -/
inductive ReadsSource (machine : Machine) : Option Text → Except Failure Text → Prop where
  | unnamed : ReadsSource machine none (.ok [])
  | stored {path text : Text} (read : ReadsFile machine.files path (.ok text)) :
      ReadsSource machine (some path) (.ok text)
  | unread {path : Text} {fault : FileFault} (read : ReadsFile machine.files path (.error fault)) :
      ReadsSource machine (some path) (.error (.file fault))

/-- The file that decides, if there is any, for a file that the options may name. -/
inductive Decides (machine : Machine) : Option Text → Option Text → Prop where
  | named (path : Text) : Decides machine (some path) (some path)
  | nearby (present : machine.files.has localConfig = true) :
      Decides machine none (some localConfig)
  | platform {path : Text} (absent : machine.files.has localConfig = false)
      (kept : machine.platformConfig = some path) (present : machine.files.has path = true) :
      Decides machine none (some path)
  | nothing (absent : machine.files.has localConfig = false)
      (unkept : ∀ path ∈ machine.platformConfig, machine.files.has path = false) :
      Decides machine none none

/-- What a deciding file gives: settings, or the failure for what is wrong with it. -/
inductive Gives (files : FileTree) (path : Text) : Except Failure Settings → Prop where
  | missing (absent : files.has path = false) :
      Gives files path (.error (.config (.missing path)))
  | unread {fault : FileFault} (present : files.has path = true)
      (read : ReadsFile files path (.error fault)) : Gives files path (.error (.file fault))
  | unreadable {text : Text} {reason : Settings.Unreadable} (present : files.has path = true)
      (read : ReadsFile files path (.ok text)) (spoilt : Settings.read text = .error reason) :
      Gives files path (.error (.config (.unreadable text reason)))
  | invalid {text : Text} {loaded : Settings} {fault : SettingsFault}
      (present : files.has path = true) (read : ReadsFile files path (.ok text))
      (loads : Settings.read text = .ok loaded) (faulty : loaded.fault? = some fault) :
      Gives files path (.error (.config (.invalid fault)))
  | valid {text : Text} {loaded : Settings} (present : files.has path = true)
      (read : ReadsFile files path (.ok text)) (loads : Settings.read text = .ok loaded)
      (faultless : loaded.fault? = none) : Gives files path (.ok loaded)

/-- What a run has for settings. -/
inductive ReadsSettings (machine : Machine) (explicit : Option Text) :
    Except Failure Settings → Prop where
  | standard (decides : Decides machine explicit none) :
      ReadsSettings machine explicit (.ok .standard)
  | given {path : Text} {result : Except Failure Settings}
      (decides : Decides machine explicit (some path)) (gives : Gives machine.files path result) :
      ReadsSettings machine explicit result

variable {machine : Machine} {files : FileTree} {path : Text} {explicit chosen : Option Text}

section Files

theorem slashed_of_path {steps : Path} (found : FileTree.pathOf path = .ok steps) :
    steps.slashed = decide (path.getLast? = some '/') := by
  unfold FileTree.pathOf at found
  split at found
  · cases found
  · split at found
    · cases found
    · split at found
      · cases found
      · obtain rfl := Except.ok.inj found
        rfl

theorem exists_reads_file (tree : FileTree) (path : Text) :
    ∃ result, ReadsFile tree path result := by
  cases found : FileTree.pathOf path with
  | error fault => exact ⟨_, .noPath found⟩
  | ok steps =>
      cases walked : tree.walk steps.start steps.steps with
      | error fault => exact ⟨_, .astray found walked⟩
      | ok names =>
          have leads : tree.Leads path names := ⟨steps, found, walked⟩
          cases held : tree.files.lookup names with
          | none =>
              cases there : tree.hasDirectory names with
              | true => exact ⟨_, .directory leads held there⟩
              | false => exact ⟨_, .missing leads held there⟩
          | some content =>
              by_cases slashed : path.getLast? = some '/'
              · exact ⟨_, .slashed leads slashed held⟩
              · cases content with
                | text text => exact ⟨_, .content leads slashed held⟩
                | bytes => exact ⟨_, .notText leads slashed held⟩

theorem ReadsFile.read_eq {tree : FileTree} {result : Except FileFault Text}
    (reads : ReadsFile tree path result) : tree.read path = result := by
  cases reads with
  | content leads unslashed held =>
      obtain ⟨steps, found, walked⟩ := leads
      have ends := slashed_of_path found
      rw [FileTree.read, FileTree.entry_of_file found walked held (by simpa [unslashed] using ends)]
  | notText leads unslashed held =>
      obtain ⟨steps, found, walked⟩ := leads
      have ends := slashed_of_path found
      rw [FileTree.read, FileTree.entry_of_file found walked held (by simpa [unslashed] using ends)]
  | slashed leads slashed held =>
      obtain ⟨steps, found, walked⟩ := leads
      have ends : steps.slashed = true := by simpa [slashed] using slashed_of_path found
      simp only [FileTree.read, FileTree.entry, found, walked, held, ends, bind, Except.bind]
      rfl
  | directory leads free there =>
      obtain ⟨steps, found, walked⟩ := leads
      simp only [FileTree.read, FileTree.entry, found, walked, free, there, bind, Except.bind]
      rfl
  | missing leads free absent =>
      obtain ⟨steps, found, walked⟩ := leads
      simp only [FileTree.read, FileTree.entry, found, walked, free, absent, bind, Except.bind]
      rfl
  | astray found lost =>
      simp only [FileTree.read, FileTree.entry, found, lost, bind, Except.bind]
  | noPath unfit =>
      simp only [FileTree.read, FileTree.entry, unfit, bind, Except.bind]

theorem reads_file_iff {tree : FileTree} {result : Except FileFault Text} :
    ReadsFile tree path result ↔ tree.read path = result := by
  constructor
  · exact ReadsFile.read_eq
  · intro same
    obtain ⟨given, reads⟩ := exists_reads_file tree path
    rwa [← same, reads.read_eq]

theorem map_error_ok {ε ε' α : Type} (f : ε → ε') (value : α) :
    (Except.ok value : Except ε α).mapError f = .ok value :=
  rfl

theorem map_error_error {ε ε' α : Type} (f : ε → ε') (fault : ε) :
    (Except.error fault : Except ε α).mapError f = .error (f fault) :=
  rfl

end Files

section Inputs

theorem reads_traceback_iff {result : Except Failure Text} :
    ReadsTraceback machine path result ↔ tracebackText machine path = result := by
  constructor
  · intro reads
    cases reads with
    | typed given => rw [tracebackText, if_pos rfl, given]
    | typedBytes given => rw [tracebackText, if_pos rfl, given]
    | stored named read => rw [tracebackText, if_neg named, read.read_eq, map_error_ok]
    | unread named read => rw [tracebackText, if_neg named, read.read_eq, map_error_error]
  · rintro rfl
    by_cases typed : path = "-".toList
    · rw [tracebackText, if_pos typed, typed]
      cases given : machine.input with
      | text text => exact .typed given
      | bytes => exact .typedBytes given
    · rw [tracebackText, if_neg typed]
      cases read : machine.files.read path with
      | ok text => exact .stored typed (reads_file_iff.mpr read)
      | error fault => exact .unread typed (reads_file_iff.mpr read)

theorem reads_source_iff {named : Option Text} {result : Except Failure Text} :
    ReadsSource machine named result ↔ sourceText machine named = result := by
  constructor
  · intro reads
    cases reads with
    | unnamed => rfl
    | stored read => rw [sourceText, read.read_eq, map_error_ok]
    | unread read => rw [sourceText, read.read_eq, map_error_error]
  · rintro rfl
    cases named with
    | none => exact .unnamed
    | some path =>
        rw [sourceText]
        cases read : machine.files.read path with
        | ok text => exact .stored (reads_file_iff.mpr read)
        | error fault => exact .unread (reads_file_iff.mpr read)

end Inputs

section Deciding

theorem decides_config_path (machine : Machine) (explicit : Option Text) :
    Decides machine explicit (configPath? machine explicit) := by
  cases explicit with
  | some path => exact .named path
  | none =>
      cases present : machine.files.has localConfig with
      | true =>
          rw [configPath?, List.find?_cons, present]
          exact .nearby present
      | false =>
          rw [configPath?, List.find?_cons, present]
          cases kept : machine.platformConfig with
          | none => exact .nothing present (by simp [kept])
          | some path =>
              cases there : machine.files.has path with
              | true =>
                  simp only [Option.toList_some, List.find?_cons, there]
                  exact .platform present kept there
              | false =>
                  simp only [Option.toList_some, List.find?_cons, there, List.find?_nil]
                  refine .nothing present ?_
                  intro other member
                  obtain rfl : path = other := Option.some.inj (kept.symm.trans member)
                  exact there

theorem Decides.config_path (decides : Decides machine explicit chosen) :
    configPath? machine explicit = chosen := by
  cases decides with
  | named path => rfl
  | nearby present => rw [configPath?, List.find?_cons, present]
  | platform absent kept present =>
      rw [configPath?, List.find?_cons, absent, kept]
      simp only [Option.toList_some, List.find?_cons, present]
  | nothing absent unkept =>
      rw [configPath?, List.find?_cons, absent]
      cases kept : machine.platformConfig with
      | none => rfl
      | some path =>
          have gone : machine.files.has path = false := unkept path kept
          simp only [Option.toList_some, List.find?_cons, gone, List.find?_nil]

theorem decides_iff :
    Decides machine explicit chosen ↔ configPath? machine explicit = chosen := by
  constructor
  · exact Decides.config_path
  · intro same
    rw [← same]
    exact decides_config_path machine explicit

end Deciding

section Giving

variable {result : Except Failure Settings}

theorem exists_gives (files : FileTree) (path : Text) : ∃ result, Gives files path result := by
  cases present : files.has path with
  | false => exact ⟨_, .missing present⟩
  | true =>
      cases found : files.read path with
      | error fault => exact ⟨_, .unread present (reads_file_iff.mpr found)⟩
      | ok text =>
          have read : ReadsFile files path (.ok text) := reads_file_iff.mpr found
          cases loads : Settings.read text with
          | error reason => exact ⟨_, .unreadable present read loads⟩
          | ok loaded =>
              cases faulty : loaded.fault? with
              | some fault => exact ⟨_, .invalid present read loads faulty⟩
              | none => exact ⟨_, .valid present read loads faulty⟩

theorem settings_in_of_gives (gives : Gives files path result) :
    settingsIn files path = result := by
  unfold settingsIn
  cases gives with
  | missing absent =>
      rw [absent]
      rfl
  | unread present read =>
      rw [present, read.read_eq]
      rfl
  | unreadable present read spoilt =>
      rw [present, read.read_eq]
      simp only [map_error_ok, map_error_error, bind, Except.bind, spoilt]
      rfl
  | invalid present read loads faulty =>
      rw [present, read.read_eq]
      simp only [map_error_ok, bind, Except.bind, loads, faulty]
      rfl
  | valid present read loads faultless =>
      rw [present, read.read_eq]
      simp only [map_error_ok, bind, Except.bind, loads, faultless]
      rfl

theorem settings_in_iff : settingsIn files path = result ↔ Gives files path result := by
  constructor
  · intro same
    obtain ⟨given, gives⟩ := exists_gives files path
    rw [← same, settings_in_of_gives gives]
    exact gives
  · exact settings_in_of_gives

theorem reads_settings_iff :
    ReadsSettings machine explicit result ↔ settings machine explicit = result := by
  constructor
  · intro reads
    cases reads with
    | standard decides => rw [settings, decides.config_path]
    | given decides gives =>
        rw [settings, decides.config_path]
        exact settings_in_of_gives gives
  · rintro rfl
    have decides := decides_config_path machine explicit
    rw [settings]
    generalize configPath? machine explicit = chosen at decides
    cases chosen with
    | none => exact .standard decides
    | some path => exact .given decides (settings_in_iff.mp rfl)

end Giving

end TraceGloss.CommandLine
