import TraceGloss.Proofs.CommandLine.Outcomes
import TraceGloss.Proofs.Report.JsonReading

/-!
# What linting changes

A run that looks for full-width characters reads what it would read without,
and makes the same report with its warnings behind. The warnings are no
fragments, so the transcript stays as it is, and they do not carry the label of
the exception, so what was drawn before them is drawn again.
-/

namespace TraceGloss.CommandLine

set_option autoImplicit false

/-- The warnings that the settings ask for. -/
def askedWarnings (settings : Settings) (source : Text) : List Marker :=
  if settings.fullWidth then FullWidth.warnings (Text.lines source) else []

/-- A warning as it is drawn: without the label of an exception. -/
def drawWarning (source : Text) (marker : Marker) : Text :=
  '\n' :: Drawing.draw Drawing.unicodeMarks (.ofMarker source none marker)

/-- What the text of a report becomes when warnings are added to the report. -/
def Format.Extends (base : Report) (source : Text) (more : List Marker) :
    Format → Text → Text → Prop
  | .html, plain, linted => linted = plain
  | .json, plain, linted =>
      Report.ofJson? plain = some base ∧ Report.ofJson? linted = some (base.mark more)
  | .report, plain, linted => linted = plain ++ more.flatMap (drawWarning source)

variable {machine : Machine} {options : Options} {loaded : Settings} {raw source : Text}

section Texts

variable {base : Report} {more : List Marker}

theorem warnings_are_no_errors {marker : Marker}
    (warned : marker ∈ askedWarnings loaded source) : marker.severity = .warning := by
  rw [askedWarnings] at warned
  split_ifs at warned
  · obtain ⟨⟨line, index⟩, -, run⟩ := List.mem_flatMap.mp warned
    obtain ⟨columns, -, rfl⟩ := List.mem_map.mp run
    rfl
  · exact absurd warned List.not_mem_nil

theorem transcript_mark (base : Report) (more : List Marker) :
    (base.mark more).transcript = base.transcript := rfl

theorem label_mark (base : Report) (more : List Marker) :
    (base.mark more).label? = base.label? := rfl

theorem warning_has_no_label {marker : Marker} (label : Option Text)
    (warned : marker.severity = .warning) :
    Diagnostic.ofMarker source label marker = Diagnostic.ofMarker source none marker := by
  have noError : marker.severity ≠ .error := by
    rw [warned]
    decide
  rw [Diagnostic.ofMarker, Diagnostic.ofMarker, if_neg noError, if_neg noError]

theorem draw_mark (warned : ∀ marker ∈ more, marker.severity = .warning) :
    drawReport (base.mark more) source =
      drawReport base source ++ more.flatMap (drawWarning source) := by
  have drawn : (more.flatMap fun marker =>
      '\n' :: Drawing.draw Drawing.unicodeMarks (.ofMarker source base.label? marker)) =
      more.flatMap (drawWarning source) := by
    refine List.flatMap_congr fun marker listed => ?_
    rw [drawWarning, warning_has_no_label base.label? (warned marker listed)]
  rw [drawReport, drawReport, label_mark, ← drawn, Report.mark, List.flatMap_append,
    List.append_assoc]

theorem write_extends (format : Format) (warned : ∀ marker ∈ more, marker.severity = .warning) :
    format.Extends base source more (format.write base source)
      (format.write (base.mark more) source) := by
  cases format with
  | html => exact transcript_mark base more
  | json => exact ⟨Report.of_json base, Report.of_json (base.mark more)⟩
  | report => exact draw_mark warned

end Texts

section Runs

theorem lint_reads_the_same (options : Options) (lint : Bool) :
    options.SameInputs { options with lint := lint } :=
  ⟨rfl, rfl, rfl⟩

theorem report_without_lint (loads : Loads machine options loaded raw source) :
    report machine { options with lint := false } =
      .ok (loaded.presenter.present raw (Text.lines source), source) := by
  rw [report_of_loads (loads.congr (lint_reads_the_same options false)), addedWarnings, Report.mark]
  simp only [Bool.false_and, Bool.false_eq_true, if_false, List.append_nil]

theorem report_with_lint (loads : Loads machine options loaded raw source) :
    report machine { options with lint := true } =
      .ok ((loaded.presenter.present raw (Text.lines source)).mark
        (askedWarnings loaded source), source) := by
  rw [report_of_loads (loads.congr (lint_reads_the_same options true)), addedWarnings,
    askedWarnings, Bool.true_and]

/-- With and without linting a run fails with the same failure, or both runs
deliver their text. The report of the run that lints is the other one with the
warnings behind its markers, and the texts differ by no more than that. -/
theorem lint_only_appends (machine : Machine) (options : Options) :
    (∃ failure,
      run machine { options with lint := false } = .error failure ∧
        run machine { options with lint := true } = .error failure) ∨
    ∃ loaded raw source base plain linted, Loads machine options loaded raw source ∧
      base = loaded.presenter.present raw (Text.lines source) ∧
      report machine { options with lint := false } = .ok (base, source) ∧
      report machine { options with lint := true } =
        .ok (base.mark (askedWarnings loaded source), source) ∧
      (base.mark (askedWarnings loaded source)).label? = base.label? ∧
      Delivers machine { options with lint := false } plain ∧
      Delivers machine { options with lint := true } linted ∧
      options.format.Extends base source (askedWarnings loaded source) plain linted := by
  rcases fails_or_loads machine options with ⟨failure, fails⟩ | ⟨loaded, raw, source, loads⟩
  · exact Or.inl ⟨failure, run_of_failure (fails.congr (lint_reads_the_same options false)),
      run_of_failure (fails.congr (lint_reads_the_same options true))⟩
  have without := report_without_lint loads
  have added := report_with_lint loads
  have plain := render_of_report without
  have linted := render_of_report added
  rcases delivers_or_fails machine options.output with ⟨failure, fails⟩ | delivers
  · exact Or.inl ⟨failure, fails _ _ rfl plain, fails _ _ rfl linted⟩
  · exact Or.inr ⟨loaded, raw, source, _, _, _, loads, rfl, without, added, rfl,
      delivers _ _ rfl plain, delivers _ _ rfl linted,
      write_extends options.format fun _ => warnings_are_no_errors⟩

end Runs

end TraceGloss.CommandLine
