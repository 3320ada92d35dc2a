import TraceGloss.Proofs.CommandLine.Outcomes
import TraceGloss.Proofs.Report.JsonReading

/-!
# One report in two formats

The format of a run has no part in what the run reads or in the report that it
makes. The JSON text of a report can be read back, whatever its texts are, so
what a run writes as JSON holds the transcript that it writes as HTML: a kind
is written under one name in the one and under another in the other, and both
names stand for the same kind.
-/

namespace TraceGloss.CommandLine

set_option autoImplicit false

variable {machine : Machine} {options : Options} {text : Text}

theorem report_of_render (rendered : render machine options = .ok text) :
    ∃ base source, report machine options = .ok (base, source) := by
  rcases fails_or_loads machine options with ⟨failure, fails⟩ | ⟨loaded, raw, source, loads⟩
  · rw [render_of_failure fails] at rendered
    cases rendered
  · exact ⟨_, _, report_of_loads loads⟩

theorem report_in_format (options : Options) (format : Format) :
    report machine { options with format := format } = report machine options := rfl

theorem render_in_format {base : Report} {source : Text} (format : Format)
    (made : report machine options = .ok (base, source)) :
    render machine { options with format := format } = .ok (format.write base source) :=
  render_of_report ((report_in_format options format).trans made)

/-- The JSON text of every report is read back as that report, and what a run
writes as JSON is read as a report whose transcript the run writes as HTML. -/
theorem json_agrees_with_html :
    (∀ report : Report, Report.ofJson? report.json = some report) ∧
    ∀ machine options text, render machine options = .ok text →
      ∃ json report,
        render machine { options with format := .json } = .ok json ∧
        Report.ofJson? json = some report ∧
        render machine { options with format := .html } = .ok report.transcript := by
  refine ⟨Report.of_json, fun machine options text rendered => ?_⟩
  obtain ⟨base, source, made⟩ := report_of_render rendered
  exact ⟨base.json, base, render_in_format .json made, Report.of_json base,
    render_in_format .html made⟩

/-- A traceback on the standard input, with characters that both formats escape. -/
def typedIn : Machine :=
  ⟨.ofFiles [], .text ("  File \"<exec>\", line 1\n    \"\t\"+x\n" ++
    "NameError: name 'x' is not defined").toList, none⟩

theorem json_agrees_with_html_of_typed_in :
    ∃ json report,
      render typedIn { format := .json } = .ok json ∧
      Report.ofJson? json = some report ∧
      render typedIn { format := .html } = .ok report.transcript := by
  have loads : Loads typedIn {} .standard _ [] :=
    ⟨reads_settings_iff.mpr rfl, reads_traceback_iff.mpr rfl, reads_source_iff.mpr rfl⟩
  exact json_agrees_with_html.2 typedIn {} _ (render_of_loads loads)

end TraceGloss.CommandLine
