import TraceGloss.Session
import Mathlib.Data.List.Basic
import Mathlib.Data.List.Induction

/-!
# The report that a session shows

What a session shows is told by its history of steps alone. The last step that
replaced the report says what was shown then, with the buffer and the presenter
as they were at that step, and every later step may only put markers behind.
Of what lies before a run, the buffer and the presenter are all that the report
still depends on.
-/

namespace TraceGloss.Session

set_option autoImplicit false

section History

/-- Whether a step makes the report anew. All others keep what is shown. -/
def Step.replaces : Step → Bool
  | .run _ | .clear => true
  | _ => false

/-- What a step makes of the buffer. -/
def Step.rewrite (buffer : List Text) : Step → List Text
  | .setBuffer lines => lines
  | .edit line text => edited buffer line text
  | _ => buffer

def Step.configured? : Step → Option Presenter
  | .configure presenter => some presenter
  | _ => none

/-- The markers that a step finds in the buffer or brings along. -/
def Step.adds (buffer : List Text) : Step → List Marker
  | .lint => FullWidth.warnings buffer
  | .mark markers => markers
  | _ => []

/-- The buffer behind a history that began with the given one. -/
def bufferAfter (buffer : List Text) (history : List Step) : List Text :=
  history.foldl Step.rewrite buffer

/-- The presenter that was configured last, or the one at the beginning. -/
def presenterAfter (presenter : Presenter) (history : List Step) : Presenter :=
  (history.filterMap Step.configured?).getLast?.getD presenter

/-- What the steps of a history add, in their order, each with the buffer as it
was at that step. -/
def addedMarkers (buffer : List Text) (history : List Step) : List Marker :=
  history.zipIdx.flatMap fun (step, index) =>
    step.adds (bufferAfter buffer (history.take index))

/-- The report right behind a history that is empty or ends with a step that
replaced the report. -/
inductive Replaced (presenter : Presenter) (buffer : List Text) : List Step → Report → Prop where
  | start : Replaced presenter buffer [] .empty
  | run (history : List Step) (raw : Text) :
      Replaced presenter buffer (history ++ [.run raw])
        ((presenterAfter presenter history).present raw (bufferAfter buffer history))
  | clear (history : List Step) : Replaced presenter buffer (history ++ [.clear]) .empty

end History

section Steps

variable {session other : Session} {taken : Step} {history : List Step}

theorem step_buffer (session : Session) (taken : Step) :
    (session.step taken).buffer = taken.rewrite session.buffer := by
  cases taken <;> rfl

theorem step_presenter (session : Session) (taken : Step) :
    (session.step taken).presenter = taken.configured?.getD session.presenter := by
  cases taken <;> rfl

/-- A step that does not replace the report puts its markers behind. -/
theorem step_marks (keeps : taken.replaces = false) :
    (session.step taken).report = session.report.mark (taken.adds session.buffer) := by
  have unmarked : session.report.mark [] = session.report := by
    rw [Report.mark, List.append_nil]
  cases taken with
  | setBuffer | edit | configure => exact unmarked.symm
  | lint | mark => rfl
  | run | clear => simp [Step.replaces] at keeps

/-- A step that replaces the report does not look at it. -/
theorem step_forgets (replaces : taken.replaces = true) (presenters : other.presenter =
      session.presenter) (buffers : other.buffer = session.buffer) :
    other.step taken = session.step taken := by
  cases taken with
  | run raw => simp only [step, presenters, buffers]
  | clear => simp only [step, presenters, buffers]
  | setBuffer | edit | configure | lint | mark => simp [Step.replaces] at replaces

theorem after_append (session : Session) (history more : List Step) :
    session.after (history ++ more) = (session.after history).after more :=
  List.foldl_append

theorem after_concat (session : Session) (history : List Step) (taken : Step) :
    session.after (history ++ [taken]) = (session.after history).step taken :=
  after_append session history [taken]

theorem after_buffer (session : Session) (history : List Step) :
    (session.after history).buffer = bufferAfter session.buffer history := by
  induction history generalizing session with
  | nil => rfl
  | cons taken history ih =>
      rw [bufferAfter, List.foldl_cons, ← step_buffer]
      exact ih (session.step taken)

theorem after_presenter (session : Session) (history : List Step) :
    (session.after history).presenter = presenterAfter session.presenter history := by
  induction history using List.reverseRecOn with
  | nil => rfl
  | append_singleton history taken ih =>
      rw [after_concat, step_presenter, ih]
      simp only [presenterAfter, List.filterMap_append]
      cases configured : taken.configured? <;> simp [configured]

theorem added_markers_concat (buffer : List Text) (history : List Step) (taken : Step) :
    addedMarkers buffer (history ++ [taken]) =
      addedMarkers buffer history ++ taken.adds (bufferAfter buffer history) := by
  have earlier : history.zipIdx.flatMap (fun (step, index) =>
      step.adds (bufferAfter buffer ((history ++ [taken]).take index))) =
      addedMarkers buffer history := by
    refine List.flatMap_congr fun (step, index) member => ?_
    have within : index < history.length := (List.mem_zipIdx' member).1
    dsimp only
    rw [List.take_append_of_le_length (Nat.le_of_lt within)]
  rw [addedMarkers, List.zipIdx_append, List.flatMap_append, earlier]
  simp [bufferAfter]

/-- While no step replaces it, the report is the one at the beginning with the
added markers behind. -/
theorem after_marks (session : Session) (keeps : ∀ taken ∈ history, taken.replaces = false) :
    (session.after history).report =
      session.report.mark (addedMarkers session.buffer history) := by
  induction history using List.reverseRecOn with
  | nil =>
      rw [addedMarkers, Report.mark, List.zipIdx_nil, List.flatMap_nil, List.append_nil]
      rfl
  | append_singleton history taken ih =>
      have last := keeps taken (by simp)
      have before := ih fun other member => keeps other (List.mem_append_left [taken] member)
      rw [after_concat, step_marks last, before, added_markers_concat, after_buffer]
      simp only [Report.mark, List.append_assoc]

end Steps

section Shown

variable {presenter : Presenter} {buffer : List Text} {history : List Step} {report : Report}

theorem report_of_replaced (replaced : Replaced presenter buffer history report) :
    (after ⟨presenter, buffer, .empty⟩ history).report = report := by
  cases replaced with
  | start => rfl
  | run history raw => rw [after_concat, step, after_presenter, after_buffer]
  | clear history => rw [after_concat, step]

/-- The last step of a history that replaced the report, and the steps since. -/
theorem exists_last_replaced (presenter : Presenter) (buffer : List Text) (history : List Step) :
    ∃ early later report, history = early ++ later ∧ Replaced presenter buffer early report ∧
      ∀ taken ∈ later, taken.replaces = false := by
  induction history using List.reverseRecOn with
  | nil => exact ⟨[], [], .empty, rfl, .start, by simp⟩
  | append_singleton history taken ih =>
      cases replaces : taken.replaces with
      | true =>
          cases taken with
          | run raw => exact ⟨_, [], _, (List.append_nil _).symm, .run history raw, by simp⟩
          | clear => exact ⟨_, [], _, (List.append_nil _).symm, .clear history, by simp⟩
          | setBuffer | edit | configure | lint | mark => simp [Step.replaces] at replaces
      | false =>
          obtain ⟨early, later, report, rfl, replaced, keeps⟩ := ih
          refine ⟨early, later ++ [taken], report, List.append_assoc _ _ _, replaced, ?_⟩
          intro other member
          rcases List.mem_append.mp member with inLater | last
          · exact keeps other inLater
          · rwa [List.mem_singleton.mp last]

/-- A session that began with an empty report shows what its last run showed, or
nothing if there is none or it was cleared since, with the markers of all later
steps behind. No other step changes the transcript or a marker that is shown.
Whatever was shown before a step that replaces the report, all sessions with
the same presenter and buffer at that step show the same in the end. -/
theorem report_since_last_run (presenter : Presenter) (buffer : List Text) (history : List Step) :
    let session := after ⟨presenter, buffer, .empty⟩ history
    (∃ early later report, history = early ++ later ∧ Replaced presenter buffer early report ∧
      (∀ taken ∈ later, taken.replaces = false) ∧
      session.report.fragments = report.fragments ∧
      session.report.markers =
        report.markers ++ addedMarkers (bufferAfter buffer early) later) ∧
    (∀ taken, taken.replaces = false →
      (session.step taken).report.transcript = session.report.transcript ∧
        session.report.markers <+: (session.step taken).report.markers) ∧
    ∀ early taken later, history = early ++ taken :: later → taken.replaces = true →
      ∀ other : Session, other.presenter = presenterAfter presenter early →
        other.buffer = bufferAfter buffer early →
          (other.after (taken :: later)).report = session.report := by
  intro session
  refine ⟨?_, ?_, ?_⟩
  · obtain ⟨early, later, report, rfl, replaced, keeps⟩ :=
      exists_last_replaced presenter buffer history
    have shown : session.report = report.mark (addedMarkers (bufferAfter buffer early) later) := by
      rw [← report_of_replaced replaced, ← after_buffer ⟨presenter, buffer, .empty⟩,
        ← after_marks _ keeps, ← after_append]
    refine ⟨early, later, report, rfl, replaced, keeps, ?_, ?_⟩
    · rw [shown]
      rfl
    · rw [shown]
      rfl
  · intro taken keeps
    rw [step_marks keeps]
    exact ⟨rfl, List.prefix_append _ _⟩
  · rintro early taken later rfl replaces other presenters buffers
    have same : other.step taken = (after ⟨presenter, buffer, .empty⟩ early).step taken := by
      apply step_forgets replaces
      · rw [presenters, after_presenter]
      · rw [buffers, after_buffer]
    have whole := after_append ⟨presenter, buffer, .empty⟩ early (taken :: later)
    change ((other.step taken).after later).report = (after _ _).report
    rw [same, whole]
    rfl

/-- A report that was linted and marked before a run shows none of it behind. -/
theorem marks_before_a_run_are_gone :
    let early := [.setBuffer ["（".toList], .lint, .edit 0 "x）".toList]
    let later := [.run "oops".toList, .lint]
    (Step.run "oops".toList).replaces = true ∧
      (after ⟨.standard, ["x）".toList], ⟨[], [⟨.message, "old".toList⟩]⟩⟩ later).report =
        (after start (early ++ later)).report :=
  ⟨rfl, (report_since_last_run .standard [] _).2.2 _ _ _ rfl rfl _ rfl rfl⟩

end Shown

end TraceGloss.Session
