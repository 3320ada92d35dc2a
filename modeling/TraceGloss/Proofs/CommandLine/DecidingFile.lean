import TraceGloss.Proofs.CommandLine.Outcomes
import TraceGloss.Proofs.Settings.PlainSettings
import Mathlib.Logic.ExistsUnique

/-!
# The file that decides on the settings

One file at most decides on the settings of a run: the one that the options name,
whether or not it is there, else the first that is there of the two usual ones. What
that file holds is all that counts. If it is missing, cannot be read, is no document
of settings or has settings that are invalid, the run fails with that, and no other
file takes its place. So the settings of every run are valid.
-/

namespace TraceGloss.CommandLine

set_option autoImplicit false

/-- At this path two trees have the same, if they have anything there. -/
structure SameAt (path : Text) (files other : FileTree) : Prop where
  has : other.has path = files.has path
  read : files.has path = true → other.read path = files.read path

/-- Settings with which the presenter can recognise and quote the live buffer. -/
structure ValidSettings (settings : Settings) : Prop where
  named : settings.presenter.liveBuffer ≠ []
  indented : ∀ c ∈ settings.presenter.snippetIndent, c = ' ' ∨ c = '\t'

variable {machine : Machine} {files otherFiles : FileTree} {path : Text}
  {explicit chosen : Option Text} {result : Except Failure Settings} {loaded : Settings}

section Giving

theorem SameAt.reads (same : SameAt path files otherFiles) (present : files.has path = true)
    {read : Except FileFault Text} (reads : ReadsFile files path read) :
    ReadsFile otherFiles path read :=
  reads_file_iff.mpr ((same.read present).trans reads.read_eq)

/-- What a file gives depends on that file alone. -/
theorem Gives.congr (same : SameAt path files otherFiles) (gives : Gives files path result) :
    Gives otherFiles path result := by
  cases gives with
  | missing absent => exact .missing (same.has.trans absent)
  | unread present read =>
      exact .unread (same.has.trans present) (same.reads present read)
  | unreadable present read spoilt =>
      exact .unreadable (same.has.trans present) (same.reads present read) spoilt
  | invalid present read loads faulty =>
      exact .invalid (same.has.trans present) (same.reads present read) loads faulty
  | valid present read loads faultless =>
      exact .valid (same.has.trans present) (same.reads present read) loads faultless

end Giving

section Valid

theorem valid_settings_iff : loaded.fault? = none ↔ ValidSettings loaded := by
  have indents : loaded.presenter.snippetIndent.all Text.isIndent = true ↔
      ∀ c ∈ loaded.presenter.snippetIndent, c = ' ' ∨ c = '\t' := by
    simp [Text.isIndent]
  unfold Settings.fault?
  constructor
  · intro faultless
    split at faultless
    · simp at faultless
    · next named =>
        split at faultless
        · next indented => exact ⟨named, indents.mp indented⟩
        · simp at faultless
  · intro valid
    rw [if_neg valid.named, if_pos (indents.mpr valid.indented)]

theorem standard_valid : ValidSettings .standard :=
  valid_settings_iff.mp rfl

theorem Gives.valid_of_ok (gives : Gives files path (.ok loaded)) : ValidSettings loaded := by
  cases gives with
  | valid _ _ _ faultless => exact valid_settings_iff.mp faultless

theorem settings_of_nothing (nothing : Decides machine explicit none) :
    settings machine explicit = .ok .standard := by
  rw [settings, nothing.config_path]

theorem settings_of_file (decides : Decides machine explicit (some path)) :
    settings machine explicit = settingsIn machine.files path := by
  rw [settings, decides.config_path]

theorem settings_valid (given : settings machine explicit = .ok loaded) :
    ValidSettings loaded := by
  cases decided : configPath? machine explicit with
  | none =>
      rw [settings_of_nothing (decides_iff.mpr decided)] at given
      rw [← Except.ok.inj given]
      exact standard_valid
  | some path =>
      rw [settings_of_file (decides_iff.mpr decided)] at given
      exact (settings_in_iff.mp given).valid_of_ok

/-- Every report is made with valid settings. -/
theorem report_with_valid_settings {options : Options} {base : Report} {source : Text}
    (made : report machine options = .ok (base, source)) :
    ∃ loaded raw, Loads machine options loaded raw source ∧ ValidSettings loaded ∧
      base = (loaded.presenter.present raw (Text.lines source)).mark
        (addedWarnings options loaded source) := by
  rcases fails_or_loads machine options with ⟨failure, fails⟩ | ⟨loaded, raw, read, loads⟩
  · rw [report_of_failure fails] at made
    exact absurd made (by simp)
  · rw [report_of_loads loads] at made
    obtain ⟨rfl, rfl⟩ := Prod.mk.inj (Except.ok.inj made)
    exact ⟨loaded, raw, loads, settings_valid (reads_settings_iff.mp loads.settings), rfl⟩

end Valid

/-- One file at most decides on the settings. Without one they are the standard
ones. With one they are what that file gives, whatever other files there are, and
where that file is the same, the result is the same. All settings that a run works
with are valid. -/
theorem one_file_decides (machine : Machine) (explicit : Option Text) :
    (∃! chosen, Decides machine explicit chosen) ∧
    (Decides machine explicit none → settings machine explicit = .ok .standard) ∧
    (∀ path, Decides machine explicit (some path) →
      (∀ result, settings machine explicit = result ↔ Gives machine.files path result) ∧
      ∀ other otherExplicit, Decides other otherExplicit (some path) →
        SameAt path machine.files other.files →
          settings other otherExplicit = settings machine explicit) ∧
    (∀ loaded, settings machine explicit = .ok loaded →
      loaded.fault? = none ∧ ValidSettings loaded) ∧
    ∀ options base source, report machine options = .ok (base, source) →
      ∃ loaded raw, Loads machine options loaded raw source ∧ ValidSettings loaded ∧
        base = (loaded.presenter.present raw (Text.lines source)).mark
          (addedWarnings options loaded source) := by
  refine ⟨?_, settings_of_nothing, ?_, ?_, fun _ _ _ => report_with_valid_settings⟩
  · refine ⟨configPath? machine explicit, decides_config_path machine explicit, ?_⟩
    intro chosen decides
    exact decides.config_path.symm
  · intro path decides
    constructor
    · intro result
      rw [settings_of_file decides]
      exact settings_in_iff
    · intro other otherExplicit alsoDecides same
      rw [settings_of_file decides, settings_of_file alsoDecides]
      exact settings_in_of_gives ((settings_in_iff.mp rfl).congr same)
  · intro loaded given
    have valid := settings_valid given
    exact ⟨valid_settings_iff.mpr valid, valid⟩

theorem eq_ok_of_option {ε α : Type} {result : Except ε α} {value : α}
    (found : result.toOption = some value) : result = .ok value := by
  cases result with
  | error fault => simp [Except.toOption] at found
  | ok given => exact congrArg Except.ok (Option.some.inj found)

/-- Settings without a name for the live buffer. -/
def namelessSettings : Settings := ⟨⟨[], "    ".toList⟩, true⟩

/-- Settings that full-width characters are not looked for with. -/
def quietSettings : Settings := ⟨.standard, false⟩

/-- A document with a line that gives no value. -/
def spoiltConfig : Text := "[presenter]\nlive_buffer\n".toList

/-- The usual files are both there. The settings of the first are invalid, and
those of the second are not. -/
def spoiltConfigs : Machine where
  files := .ofFiles [(localConfig, .text namelessSettings.written),
    ("home.toml".toList, .text quietSettings.written), ("spoilt.toml".toList, .text spoiltConfig),
    ("image.toml".toList, .bytes)]
  input := .bytes
  platformConfig := some "home.toml".toList

theorem spoilt_config : Settings.read spoiltConfig = .error (.document .malformed) := by
  have bare : Toml.BareKey Settings.presenterKey ∧ Toml.BareKey Settings.liveBufferKey := by
    decide +kernel
  have fits : Toml.PlainFits [⟨Settings.presenterKey, []⟩] := by
    refine ⟨?_, by simp⟩
    intro part member
    rw [List.mem_singleton.mp member]
    exact ⟨bare.1, by simp, by simp, List.nodup_nil⟩
  have split : spoiltConfig = [⟨Settings.presenterKey, []⟩].flatMap Toml.Section.written ++
      (Settings.liveBufferKey ++ '\n' :: []) := by
    decide +kernel
  rw [split]
  exact Settings.read_spoilt_line fits bare.2 []

theorem valid_file_does_not_mask :
    let invalid : Except Failure Settings := .error (.config (.invalid .emptyLiveBuffer))
    let missing : Except Failure Settings := .error (.config (.missing "c.toml".toList))
    let unreadable : Except Failure Settings :=
      .error (.config (.unreadable spoiltConfig (.document .malformed)))
    let notText : Except Failure Settings := .error (.file .notText)
    (Decides spoiltConfigs none (some localConfig) ∧ settings spoiltConfigs none = invalid) ∧
      settings spoiltConfigs (some "c.toml".toList) = missing ∧
      settings spoiltConfigs (some "spoilt.toml".toList) = unreadable ∧
      settings spoiltConfigs (some "image.toml".toList) = notText ∧
      settings spoiltConfigs (some "home.toml".toList) = .ok quietSettings := by
  intro invalid missing unreadable notText
  have present : ∀ path ∈ [localConfig, "spoilt.toml".toList, "image.toml".toList,
      "home.toml".toList], spoiltConfigs.files.has path = true := by
    decide +kernel
  simp only [List.forall_mem_cons] at present
  obtain ⟨localPresent, spoiltPresent, imagePresent, homePresent, -⟩ := present
  have absent : spoiltConfigs.files.has "c.toml".toList = false := by decide +kernel
  have localRead : ReadsFile spoiltConfigs.files localConfig (.ok namelessSettings.written) :=
    reads_file_iff.mpr (eq_ok_of_option (by decide +kernel))
  have spoiltRead : ReadsFile spoiltConfigs.files "spoilt.toml".toList (.ok spoiltConfig) :=
    reads_file_iff.mpr (eq_ok_of_option (by decide +kernel))
  have imageRead : ReadsFile spoiltConfigs.files "image.toml".toList (.error .notText) :=
    reads_file_iff.mpr rfl
  have homeRead : ReadsFile spoiltConfigs.files "home.toml".toList (.ok quietSettings.written) :=
    reads_file_iff.mpr (eq_ok_of_option (by decide +kernel))
  have localLoads : Settings.read namelessSettings.written = .ok namelessSettings :=
    Settings.read_written (by decide +kernel) (by decide +kernel)
  have homeLoads : Settings.read quietSettings.written = .ok quietSettings :=
    Settings.read_written (by decide +kernel) (by decide +kernel)
  have nearby : Decides spoiltConfigs none (some localConfig) := .nearby localPresent
  have named (path : Text) (result : Except Failure Settings)
      (gives : Gives spoiltConfigs.files path result) :
      settings spoiltConfigs (some path) = result :=
    (((one_file_decides spoiltConfigs (some path)).2.2.1 path (.named path)).1 result).mpr gives
  refine ⟨⟨nearby, ?_⟩, named _ _ (.missing absent), named _ _ ?_, named _ _ ?_, named _ _ ?_⟩
  · exact (((one_file_decides spoiltConfigs none).2.2.1 _ nearby).1 invalid).mpr
      (.invalid localPresent localRead localLoads rfl)
  · exact .unreadable spoiltPresent spoiltRead spoilt_config
  · exact .unread imagePresent imageRead
  · exact .valid homePresent homeRead homeLoads rfl

end TraceGloss.CommandLine
