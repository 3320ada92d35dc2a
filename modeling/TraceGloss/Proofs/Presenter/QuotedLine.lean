import TraceGloss.Presenter
import TraceGloss.Settings
import TraceGloss.Proofs.Explanation.Clues

/-!
# The quoted line

A report quotes one line of the buffer at most, without the blanks around it
and behind an indent. Nothing else of the buffer has any influence on a report,
and the line has none when the traceback shows its source or names another
file. The indent is seen in the quotation alone: no test of a snippet reacts to
it, so the explanation is the same for every indent.
-/

namespace TraceGloss

set_option autoImplicit false

namespace Presenter

section Buffer

variable {presenter : Presenter} {raw : Text} {frame : Frame} {buffer other : List Text}

/-- The buffer reaches a report through the snippet of its frame alone. -/
theorem present_of_same_snippet
    (same : ∀ frame, (Traceback.read raw).frame = some frame →
      presenter.snippet frame buffer = presenter.snippet frame other) :
    presenter.present raw buffer = presenter.present raw other := by
  cases found : (Traceback.read raw).frame with
  | none => rw [present_of_no_frame found, present_of_no_frame found]
  | some frame =>
      have reports : presenter.presentFrame frame buffer = presenter.presentFrame frame other := by
        unfold presentFrame
        rw [same frame found]
      rw [present_of_frame found, present_of_frame found, reports]

/-- No line of the buffer has this number. Lines count from one. -/
def Lacks (buffer : List Text) (number : Nat) : Prop :=
  number = 0 ∨ buffer[number - 1]? = none

/-- Both buffers have a line of this number and the lines differ at most in the
blanks around them, or neither buffer has such a line. -/
def AgreeAt (number : Nat) (buffer other : List Text) : Prop :=
  (1 ≤ number ∧ ∃ line otherLine, buffer[number - 1]? = some line ∧
    other[number - 1]? = some otherLine ∧ Text.trim line = Text.trim otherLine) ∨
  (Lacks buffer number ∧ Lacks other number)

theorem named_line_none {number : Nat} (lacks : Lacks buffer number) :
    namedLine? buffer number = none := by
  cases number with
  | zero => rfl
  | succ index =>
      rcases lacks with zero | absent
      · simp at zero
      · exact absent

theorem snippet_of_agreement (hidden : frame.snippet = [])
    (live : frame.fileName = presenter.liveBuffer)
    (agree : AgreeAt frame.lineNumber buffer other) :
    presenter.snippet frame buffer = presenter.snippet frame other := by
  rw [snippet_of_live_frame hidden live, snippet_of_live_frame hidden live]
  rcases agree with ⟨counted, line, otherLine, here, there, trimmed⟩ | ⟨lacks, otherLacks⟩
  · obtain ⟨index, number⟩ : ∃ index, frame.lineNumber = index + 1 :=
      Nat.exists_eq_add_of_le' counted
    rw [number, Nat.add_sub_cancel] at here there
    simp only [number, namedLine?, here, there, Option.map_some, trimmed]
  · rw [named_line_none lacks, named_line_none otherLacks]

/-- No buffer matters to a report without a frame, nor to one whose frame shows
its source or is in another file. Otherwise the line that the frame names is all
that matters, and the blanks around it do not. -/
theorem one_line_matters (presenter : Presenter) (raw : Text) (buffer other : List Text) :
    ((∀ frame, (Traceback.read raw).frame = some frame →
        frame.snippet ≠ [] ∨ frame.fileName ≠ presenter.liveBuffer) →
      presenter.present raw buffer = presenter.present raw other) ∧
    ∀ frame, (Traceback.read raw).frame = some frame →
      frame.snippet = [] → frame.fileName = presenter.liveBuffer →
      AgreeAt frame.lineNumber buffer other →
        presenter.present raw buffer = presenter.present raw other := by
  constructor
  · intro unquoted
    apply present_of_same_snippet
    intro frame found
    rw [snippet_of_other_frame (unquoted frame found),
      snippet_of_other_frame (unquoted frame found)]
  · intro frame found hidden live agree
    apply present_of_same_snippet
    intro frame' found'
    obtain rfl : frame = frame' := Option.some.inj (found.symm.trans found')
    exact snippet_of_agreement hidden live agree

/-- An error that the interpreter reports without its line. -/
def unshownError : Text :=
  "  File \"<exec>\", line 2\nSyntaxError: expected ':'".toList

theorem blanks_and_other_lines_do_not_matter :
    AgreeAt 2 ["a".toList, "else x == 1:".toList] ["b".toList, "\telse x == 1: \r".toList, []] ∧
      standard.present unshownError ["a".toList, "else x == 1:".toList] =
        standard.present unshownError ["b".toList, "\telse x == 1: \r".toList, []] := by
  have agree : AgreeAt 2 ["a".toList, "else x == 1:".toList]
      ["b".toList, "\telse x == 1: \r".toList, []] :=
    Or.inl ⟨by decide, _, _, rfl, rfl, by decide⟩
  have found : (Traceback.read unshownError).frame =
      some ⟨"<exec>".toList, 2, none, [], "SyntaxError".toList, "expected ':'".toList⟩ := by
    decide +kernel
  exact ⟨agree, (one_line_matters _ _ _ _).2 _ found rfl rfl agree⟩

end Buffer

end Presenter

/-- The same fragment, or one quotation behind two indents. -/
def Fragment.SameButIndent (indent other : Text) (left right : Fragment) : Prop :=
  left = right ∨ left.kind = .snippet ∧ right.kind = .snippet ∧
    ∃ source, source ≠ [] ∧ left.text = indent ++ source ∧ right.text = other ++ source

/-- Reports that differ at most in the indent of a quoted line. -/
structure Report.SameButIndent (indent other : Text) (left right : Report) : Prop where
  markers : left.markers = right.markers
  fragments : List.Forall₂ (Fragment.SameButIndent indent other) left.fragments right.fragments

/-- An indent with which settings can be valid. -/
def Settings.AcceptsIndent (indent : Text) : Prop :=
  ∃ liveBuffer fullWidth, fault? ⟨⟨liveBuffer, indent⟩, fullWidth⟩ = none

theorem Settings.accepts_indent_iff {indent : Text} :
    AcceptsIndent indent ↔ ∀ c ∈ indent, Text.isIndent c = true := by
  constructor
  · rintro ⟨liveBuffer, fullWidth, valid⟩
    unfold fault? at valid
    split at valid
    · simp at valid
    · split at valid
      · next indented => simpa using indented
      · simp at valid
  · intro indented
    refine ⟨Preamble.userFile, true, ?_⟩
    have named : Preamble.userFile ≠ [] := by decide
    rw [fault?, if_neg named, if_pos (by simpa using indented)]

namespace Presenter

section Indent

variable {indent other : Text}

theorem snippet_cases (liveBuffer : Text) (frame : Frame) (buffer : List Text) :
    (∃ source, ∀ indent, (Presenter.mk liveBuffer indent).snippet frame buffer = source) ∨
      ∃ line, ∀ indent,
        (Presenter.mk liveBuffer indent).snippet frame buffer = indent ++ Text.trim line := by
  by_cases quoted : frame.snippet = [] ∧ frame.fileName = liveBuffer
  · cases named : namedLine? buffer frame.lineNumber with
    | none =>
        refine Or.inl ⟨[], fun indent => ?_⟩
        rw [snippet_of_live_frame quoted.1 quoted.2, named]
        rfl
    | some line =>
        refine Or.inr ⟨line, fun indent => ?_⟩
        rw [snippet_of_live_frame quoted.1 quoted.2, named]
        rfl
  · refine Or.inl ⟨frame.snippet, fun indent => snippet_of_other_frame ?_⟩
    by_cases shown : frame.snippet = []
    · exact Or.inr fun live => quoted ⟨shown, live⟩
    · exact Or.inl shown

/-- An indent in front of nothing is trimmed away. -/
theorem trim_indented (blank : ∀ c ∈ indent, Text.isBlank c = true) (line : Text) :
    Text.trimEnd (indent ++ Text.trim line) =
      if Text.trim line = [] then [] else indent ++ Text.trim line := by
  split
  · next empty =>
      rw [empty]
      exact List.rdropWhile_eq_nil_iff.mpr (by simpa using blank)
  · next nonempty =>
      apply Text.trim_end_of_solid
      rw [List.getLast?_append_of_ne_nil _ nonempty]
      exact Text.trim_end_is_solid (Text.trimStart line)

variable (blank : ∀ c ∈ indent, Text.isBlank c = true)
  (otherBlank : ∀ c ∈ other, Text.isBlank c = true)
  (liveBuffer : Text) (frame : Frame) (buffer : List Text)

include blank otherBlank

theorem same_clues :
    Snippet.clues ((Presenter.mk liveBuffer indent).snippet frame buffer) =
      Snippet.clues ((Presenter.mk liveBuffer other).snippet frame buffer) := by
  rcases snippet_cases liveBuffer frame buffer with ⟨source, same⟩ | ⟨line, quoted⟩
  · rw [same, same]
  · rw [quoted, quoted, Snippet.clues_behind_blanks blank, Snippet.clues_behind_blanks otherBlank]

theorem same_but_indent_snippet :
    Fragment.SameButIndent indent other
      ⟨.snippet, Text.trimEnd ((Presenter.mk liveBuffer indent).snippet frame buffer)⟩
      ⟨.snippet, Text.trimEnd ((Presenter.mk liveBuffer other).snippet frame buffer)⟩ := by
  rcases snippet_cases liveBuffer frame buffer with ⟨source, same⟩ | ⟨line, quoted⟩
  · left
    rw [same, same]
  · rw [quoted, quoted, trim_indented blank, trim_indented otherBlank]
    by_cases empty : Text.trim line = []
    · left
      rw [if_pos empty, if_pos empty]
    · right
      rw [if_neg empty, if_neg empty]
      exact ⟨rfl, rfl, Text.trim line, empty, rfl, rfl⟩

theorem same_but_indent_frame :
    Report.SameButIndent indent other ((Presenter.mk liveBuffer indent).presentFrame frame buffer)
      ((Presenter.mk liveBuffer other).presentFrame frame buffer) := by
  have explanations :
      (complaint frame ((Presenter.mk liveBuffer indent).snippet frame buffer)).explanation =
        (complaint frame ((Presenter.mk liveBuffer other).snippet frame buffer)).explanation :=
    Catalog.explanation_of_clues (complaint frame _)
      (same_clues otherBlank blank liveBuffer frame buffer)
  have snippets := same_but_indent_snippet blank otherBlank liveBuffer frame buffer
  simp only [presentFrame, explanations]
  exact ⟨rfl, .cons (.inl rfl) (.cons (.inl rfl) (.cons (.inl rfl) (.cons snippets
    (.cons (.inl rfl) .nil))))⟩

end Indent

/-- Two indents that can be configured make reports that differ in the indent of
the quoted line alone. No test of the snippet sees it. -/
theorem indent_is_cosmetic {indent other : Text} (accepted : Settings.AcceptsIndent indent)
    (otherAccepted : Settings.AcceptsIndent other) (liveBuffer raw : Text) (buffer : List Text) :
    Report.SameButIndent indent other ((Presenter.mk liveBuffer indent).present raw buffer)
        ((Presenter.mk liveBuffer other).present raw buffer) ∧
      ∀ frame, Snippet.clues ((Presenter.mk liveBuffer indent).snippet frame buffer) =
        Snippet.clues ((Presenter.mk liveBuffer other).snippet frame buffer) := by
  have blank : ∀ c ∈ indent, Text.isBlank c = true := fun c member =>
    Text.indent_is_blank (Settings.accepts_indent_iff.mp accepted c member)
  have otherBlank : ∀ c ∈ other, Text.isBlank c = true := fun c member =>
    Text.indent_is_blank (Settings.accepts_indent_iff.mp otherAccepted c member)
  refine ⟨?_, fun frame => same_clues blank otherBlank liveBuffer frame buffer⟩
  cases found : (Traceback.read raw).frame with
  | none =>
      rw [present_of_no_frame found, present_of_no_frame found]
      exact ⟨rfl, .cons (.inl rfl) .nil⟩
  | some frame =>
      have frames := same_but_indent_frame blank otherBlank liveBuffer frame buffer
      rw [present_of_frame found, present_of_frame found]
      exact ⟨frames.markers, .cons (.inl rfl) frames.fragments⟩

theorem tab_is_cosmetic :
    Settings.AcceptsIndent ['\t'] ∧ Settings.AcceptsIndent [] ∧
      Report.SameButIndent ['\t'] []
        ((Presenter.mk "<exec>".toList ['\t']).present unshownError [[], " else x == 1:".toList])
        ((Presenter.mk "<exec>".toList []).present unshownError [[], " else x == 1:".toList]) := by
  have tab : Settings.AcceptsIndent ['\t'] := Settings.accepts_indent_iff.mpr (by decide)
  have nothing : Settings.AcceptsIndent [] := Settings.accepts_indent_iff.mpr (by decide)
  exact ⟨tab, nothing, (indent_is_cosmetic tab nothing _ _ _).1⟩

end Presenter

end TraceGloss
