import TraceGloss.CommandLine.Program
import TraceGloss.Proofs.CommandLine.Reading

/-!
# What a run leaves behind

A run reads all that it needs before it writes anything. The first part that
cannot be read decides how the run fails, and then every file is as it was and
nothing is printed. Otherwise there is one place for the text of the run, the
standard output or the output file, and the text is made from the files as they
were, also when the output file is one of them.
-/

namespace TraceGloss.CommandLine

set_option autoImplicit false

/-- The first part that cannot be read, in the order in which a run reads. -/
inductive FailsFirst (machine : Machine) (options : Options) : Failure → Prop where
  | settings {failure : Failure} (fails : ReadsSettings machine options.config (.error failure)) :
      FailsFirst machine options failure
  | traceback {failure : Failure} {loaded : Settings}
      (readable : ReadsSettings machine options.config (.ok loaded))
      (fails : ReadsTraceback machine options.traceback (.error failure)) :
      FailsFirst machine options failure
  | source {failure : Failure} {loaded : Settings} {raw : Text}
      (readable : ReadsSettings machine options.config (.ok loaded))
      (shown : ReadsTraceback machine options.traceback (.ok raw))
      (fails : ReadsSource machine options.source (.error failure)) :
      FailsFirst machine options failure

/-- All that a run reads can be read. -/
structure Loads (machine : Machine) (options : Options) (loaded : Settings) (raw source : Text) :
    Prop where
  settings : ReadsSettings machine options.config (.ok loaded)
  traceback : ReadsTraceback machine options.traceback (.ok raw)
  source : ReadsSource machine options.source (.ok source)

/-- Options under which a run reads the same. -/
structure Options.SameInputs (options other : Options) : Prop where
  config : other.config = options.config
  traceback : other.traceback = options.traceback
  source : other.source = options.source

variable {machine : Machine} {options other : Options} {loaded : Settings} {raw source text : Text}
  {failure : Failure}

section Reading

theorem fails_or_loads (machine : Machine) (options : Options) :
    (∃ failure, FailsFirst machine options failure) ∨
      ∃ loaded raw source, Loads machine options loaded raw source := by
  cases readable : settings machine options.config with
  | error failure => exact Or.inl ⟨failure, .settings (reads_settings_iff.mpr readable)⟩
  | ok loaded =>
      have set := reads_settings_iff.mpr readable
      cases shown : tracebackText machine options.traceback with
      | error failure => exact Or.inl ⟨failure, .traceback set (reads_traceback_iff.mpr shown)⟩
      | ok raw =>
          have traced := reads_traceback_iff.mpr shown
          cases found : sourceText machine options.source with
          | error failure =>
              exact Or.inl ⟨failure, .source set traced (reads_source_iff.mpr found)⟩
          | ok source =>
              exact Or.inr ⟨loaded, raw, source, set, traced, reads_source_iff.mpr found⟩

theorem FailsFirst.congr (same : options.SameInputs other)
    (fails : FailsFirst machine options failure) : FailsFirst machine other failure := by
  obtain ⟨config, traceback, source⟩ := same
  cases fails with
  | settings fails => exact .settings (config ▸ fails)
  | traceback readable fails => exact .traceback (config ▸ readable) (traceback ▸ fails)
  | source readable shown fails =>
      exact .source (config ▸ readable) (traceback ▸ shown) (source ▸ fails)

theorem Loads.congr (same : options.SameInputs other)
    (loads : Loads machine options loaded raw source) : Loads machine other loaded raw source :=
  ⟨same.config ▸ loads.settings, same.traceback ▸ loads.traceback, same.source ▸ loads.source⟩

theorem report_of_failure (fails : FailsFirst machine options failure) :
    report machine options = .error failure := by
  cases fails with
  | settings fails =>
      rw [report, reads_settings_iff.mp fails]
      rfl
  | traceback readable fails =>
      rw [report, reads_settings_iff.mp readable, reads_traceback_iff.mp fails]
      rfl
  | source readable shown fails =>
      rw [report, reads_settings_iff.mp readable, reads_traceback_iff.mp shown,
        reads_source_iff.mp fails]
      rfl

/-- The warnings that a run adds to its report. -/
def addedWarnings (options : Options) (loaded : Settings) (source : Text) : List Marker :=
  if options.lint && loaded.fullWidth then FullWidth.warnings (Text.lines source) else []

theorem report_of_loads (loads : Loads machine options loaded raw source) :
    report machine options =
      .ok ((loaded.presenter.present raw (Text.lines source)).mark
        (addedWarnings options loaded source), source) := by
  have unmarked : ∀ report : Report, report.mark [] = report := fun report => by
    simp [Report.mark]
  rw [report, reads_settings_iff.mp loads.settings, reads_traceback_iff.mp loads.traceback,
    reads_source_iff.mp loads.source]
  by_cases linted : (options.lint && loaded.fullWidth) = true
  · rw [addedWarnings, if_pos linted]
    exact if_pos linted
  · rw [addedWarnings, if_neg linted, unmarked]
    exact if_neg linted

theorem render_of_report {base : Report} (made : report machine options = .ok (base, source)) :
    render machine options = .ok (options.format.write base source) := by
  rw [render, made]
  rfl

theorem render_of_failure (fails : FailsFirst machine options failure) :
    render machine options = .error failure := by
  rw [render, report_of_failure fails]
  rfl

theorem render_of_loads (loads : Loads machine options loaded raw source) :
    render machine options =
      .ok (options.format.write ((loaded.presenter.present raw (Text.lines source)).mark
        (addedWarnings options loaded source)) source) :=
  render_of_report (report_of_loads loads)

end Reading

section Delivering

/-- The text of a run goes to the output file when there is one, and to the
standard output when there is none. -/
def deliver (machine : Machine) : Option Text → Text → Except Failure (Text × FileTree)
  | none, text => .ok (text, machine.files)
  | some path, text => ((machine.files.write path text).mapError .file).map fun files => ([], files)

theorem run_eq (machine : Machine) (options : Options) :
    run machine options = render machine options >>= deliver machine options.output := by
  rw [run]
  cases render machine options with
  | error failure => rfl
  | ok text =>
      cases options.output with
      | none => rfl
      | some path =>
          change (machine.files.write path text).mapError .file >>= _ =
            deliver machine (some path) text
          rw [deliver]
          cases (machine.files.write path text).mapError Failure.file <;> rfl

theorem deliver_written {path : Text} {files : FileTree}
    (written : machine.files.write path text = .ok files) :
    deliver machine (some path) text = .ok ([], files) := by
  rw [deliver, written]
  rfl

theorem deliver_unwritten {path : Text} {fault : FileFault}
    (unwritten : machine.files.write path text = .error fault) :
    deliver machine (some path) text = .error (.file fault) := by
  rw [deliver, unwritten]
  rfl

theorem run_of_failure (fails : FailsFirst machine options failure) :
    run machine options = .error failure := by
  rw [run_eq, render_of_failure fails]
  rfl

theorem run_of_render (rendered : render machine options = .ok text) :
    run machine options = deliver machine options.output text := by
  rw [run_eq, rendered]
  rfl

/-- A run succeeds, and this is the text that it puts out. -/
inductive Delivers (machine : Machine) (options : Options) (text : Text) : Prop where
  | printed (unnamed : options.output = none)
      (ran : run machine options = .ok (text, machine.files))
  | stored {path : Text} {files : FileTree} (named : options.output = some path)
      (ran : run machine options = .ok ([], files)) (held : files.read path = .ok text)

/-- Whether the text of a run can be delivered does not depend on the text. -/
theorem delivers_or_fails (machine : Machine) (output : Option Text) :
    (∃ failure, ∀ options text, options.output = output →
      render machine options = .ok text → run machine options = .error failure) ∨
    ∀ options text, options.output = output →
      render machine options = .ok text → Delivers machine options text := by
  cases output with
  | none =>
      refine Or.inr fun options text unnamed rendered => .printed unnamed ?_
      rw [run_of_render rendered, unnamed]
      rfl
  | some path =>
      cases found : machine.files.target path with
      | error fault =>
          refine Or.inl ⟨.file fault, fun options text named rendered => ?_⟩
          rw [run_of_render rendered, named]
          exact deliver_unwritten (FileTree.write_eq_error_iff.mpr found)
      | ok names =>
          refine Or.inr fun options text named rendered => ?_
          have written := FileTree.write_eq_ok_iff.mpr
            ⟨names, found, (rfl : machine.files.put names text = _)⟩
          obtain ⟨_, overwrites⟩ := FileTree.write_overwrites written
          refine .stored named ?_ overwrites.written
          rw [run_of_render rendered, named]
          exact deliver_written written

end Delivering

section Outcomes

/-- What is seen of a run, apart from the error output. -/
structure Outcome.Shows (outcome : Outcome) (exitCode : Nat) (output : Text) (files : FileTree) :
    Prop where
  exitCode : outcome.exitCode = exitCode
  output : outcome.output = output
  files : outcome.files = files

variable {words : List Text}

theorem shows_result (accepted : Options.read words = .ok options) {files : FileTree}
    (ran : run machine options = .ok (text, files)) :
    (program machine words).Shows 0 text files := by
  rw [program, accepted]
  simp only [outcomeOf, ran]
  exact ⟨rfl, rfl, rfl⟩

theorem shows_failure (accepted : Options.read words = .ok options)
    (failed : run machine options = .error failure) :
    (program machine words).Shows 1 [] machine.files := by
  rw [program, accepted]
  simp only [outcomeOf, failed]
  exact ⟨rfl, rfl, rfl⟩

/-- A run that cannot read something fails with what it cannot read first, and
leaves nothing behind. A run that can read all has its text on the standard
output and leaves the files alone, or has it in the output file, where it is
made from the files as they were, and leaves all other files alone. -/
theorem run_is_all_or_nothing (machine : Machine) {words : List Text} {options : Options}
    (accepted : Options.read words = .ok options) :
    ((∃ failure, FailsFirst machine options failure) ∨
      ∃ loaded raw source, Loads machine options loaded raw source) ∧
    (∀ failure, FailsFirst machine options failure →
      run machine options = .error failure ∧
        (program machine words).Shows 1 [] machine.files) ∧
    ∀ loaded raw source, Loads machine options loaded raw source →
      ∃ text, render machine options = .ok text ∧
      (options.output = none → (program machine words).Shows 0 text machine.files) ∧
      ∀ path, options.output = some path →
        (∀ files, machine.files.write path text = .ok files →
          (program machine words).Shows 0 [] files ∧
            ∃ names, FileTree.Overwrites names path text machine.files files) ∧
        ∀ fault, machine.files.write path text = .error fault →
          run machine options = .error (.file fault) ∧
            (program machine words).Shows 1 [] machine.files := by
  refine ⟨fails_or_loads machine options, ?_, ?_⟩
  · intro failure fails
    have failed := run_of_failure fails
    exact ⟨failed, shows_failure accepted failed⟩
  · intro loaded raw source loads
    have rendered := render_of_loads loads
    have ran := run_of_render rendered
    refine ⟨_, rendered, fun absent => ?_,
      fun path given => ⟨fun files written => ?_, fun fault unwritten => ?_⟩⟩
    · rw [absent] at ran
      exact shows_result accepted ran
    · rw [given, deliver_written written] at ran
      exact ⟨shows_result accepted ran, FileTree.write_overwrites written⟩
    · rw [given, deliver_unwritten unwritten] at ran
      exact ⟨ran, shows_failure accepted ran⟩

/-- One file is the traceback and the source, and the output too. -/
def oneFile : Machine :=
  ⟨.ofFiles [("t.txt".toList, .text "E: x".toList)], .bytes, none⟩

def oneFileWords : List Text :=
  ["t.txt".toList, "--source".toList, "t.txt".toList, "-o".toList, "./t.txt".toList]

def oneFileOptions : Options where
  traceback := "t.txt".toList
  source := some "t.txt".toList
  output := some "./t.txt".toList

theorem output_replaces_what_was_read :
    Options.read oneFileWords = .ok oneFileOptions ∧
      ∃ text, render oneFile oneFileOptions = .ok text ∧
        (program oneFile oneFileWords).Shows 0 [] (oneFile.files.put ["t.txt".toList] text) ∧
        (oneFile.files.put ["t.txt".toList] text).read "./t.txt".toList = .ok text := by
  have accepted : Options.read oneFileWords = .ok oneFileOptions := rfl
  have loads : Loads oneFile oneFileOptions .standard "E: x".toList "E: x".toList :=
    ⟨reads_settings_iff.mpr rfl, reads_traceback_iff.mpr rfl, reads_source_iff.mpr rfl⟩
  have target : oneFile.files.target "./t.txt".toList = .ok ["t.txt".toList] := rfl
  obtain ⟨-, -, delivered⟩ := run_is_all_or_nothing oneFile accepted
  obtain ⟨text, rendered, -, stored⟩ := delivered _ _ _ loads
  obtain ⟨shown, names, overwrites⟩ := (stored _ rfl).1 _
    (FileTree.write_eq_ok_iff.mpr ⟨_, target, rfl⟩)
  exact ⟨accepted, text, rendered, shown, overwrites.written⟩

end Outcomes

end TraceGloss.CommandLine
