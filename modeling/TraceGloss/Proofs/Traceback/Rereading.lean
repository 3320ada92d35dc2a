import TraceGloss.Proofs.Traceback.PreambleCut
import TraceGloss.Presenter

/-!
# Reading what was read

The text of a traceback is a report that reads as that same traceback: nothing
is left in it to drop or to trim. What was dropped makes no earlier banner and
no earlier user locator, and trimming never reaches into a user locator, since
its line number begins with a digit. So a report can be presented from the text
that its presentation shows.
-/

namespace TraceGloss

set_option autoImplicit false

namespace Preamble

section Places

variable {raw before after blanks user : Text}

/-- Where the first banner stands does not depend on what follows it. -/
theorem first_banner_of_same_front (first : Text.First IsBanner raw before (banner ++ after))
    (other : Text) :
    Text.First IsBanner (before ++ (banner ++ other)) before (banner ++ other) := by
  refine ⟨rfl, List.prefix_append _ _, ?_⟩
  intro earlier later split here
  rcases List.append_eq_append_iff.mp split with ⟨more, rfl, -⟩ | ⟨more, rfl, rfl⟩
  · simp
  · -- a banner that begins earlier ends before what was replaced
    have within : banner <+: more ++ banner := by
      apply List.prefix_of_prefix_length_le here
      · rw [← List.append_assoc]
        exact List.prefix_append _ _
      · simp
    apply first.earliest earlier (more ++ banner ++ after)
    · simpa using first.split
    · exact within.trans (List.prefix_append _ _)

/-- Behind blanks alone there is no earlier place for a locator. -/
theorem first_user_code_behind_blanks (blank : ∀ c ∈ blanks, Text.isBlank c = true)
    (holds : IsUserCode blanks user) : Text.First IsUserCode (blanks ++ user) blanks user := by
  refine ⟨rfl, holds, ?_⟩
  intro earlier later split here
  rcases List.append_eq_append_iff.mp split with ⟨more, rfl, -⟩ | ⟨more, rfl, rfl⟩
  · simp
  · cases more with
    | nil => simp
    | cons c more =>
        obtain ⟨d, rest, same, visible⟩ := begins_locator_solid (is_user_code_iff.mp here).2
        obtain ⟨rfl, -⟩ := List.cons.inj same
        simp [blank c] at visible

theorem begins_locator_trimmed (begins : beginsLocator user = true) :
    beginsLocator (Text.trimEnd user) = true := by
  obtain ⟨digit, rest, rfl, isDigit⟩ := begins_locator_iff.mp begins
  have kept : Text.trimEnd ((userLocator ++ [digit]) ++ rest) =
      (userLocator ++ [digit]) ++ Text.trimEnd rest := by
    apply Text.trim_end_behind_solid
    intro c last
    obtain rfl : digit = c := by simpa using last
    exact Text.digit_is_solid isDigit
  rw [List.append_assoc, List.append_assoc] at kept
  exact begins_locator_iff.mpr ⟨digit, Text.trimEnd rest, kept, isDigit⟩

theorem user_code_trimmed (holds : IsUserCode before user) :
    IsUserCode before (Text.trimEnd user) := by
  obtain ⟨behindBlank, begins⟩ := is_user_code_iff.mp holds
  exact is_user_code_iff.mpr ⟨behindBlank, begins_locator_trimmed begins⟩

theorem has_user_code_append (present : HasUserCode raw) (more : Text) :
    HasUserCode (raw ++ more) := by
  obtain ⟨before, after, gap, user, atBanner, rfl, behindBlank, digit, rest, rfl, isDigit⟩ :=
    present
  refine ⟨before, gap ++ (userLocator ++ digit :: (rest ++ more)), gap, _, ?_, rfl, behindBlank,
    digit, rest ++ more, rfl, isDigit⟩
  have still :=
    first_banner_of_same_front atBanner (gap ++ (userLocator ++ digit :: (rest ++ more)))
  simpa [atBanner.split] using still

end Places

section Again

variable {raw : Text}

theorem trim_condensed (cut : Cut raw) : Text.trimEnd (condense raw) =
    cut.before ++ (banner ++ (cut.blanks ++ Text.trimEnd cut.user)) := by
  obtain ⟨c, rest, split, visible⟩ :=
    begins_locator_solid (is_user_code_iff.mp cut.atUser.holds).2
  have kept : Text.trimEnd ((cut.before ++ (banner ++ cut.blanks)) ++ cut.user) =
      (cut.before ++ (banner ++ cut.blanks)) ++ Text.trimEnd cut.user :=
    Text.trim_end_append ⟨c, by simp [split], visible⟩
  rw [condense_of_cut cut]
  simpa only [List.append_assoc] using kept

theorem blank_before_user (cut : Cut raw) : IsUserCode cut.blanks cut.user := by
  obtain ⟨⟨c, last, blank⟩, begins⟩ := cut.atUser.holds
  rw [List.getLast?_append_of_ne_nil _ cut.blanks_ne_nil] at last
  exact ⟨⟨c, last, blank⟩, begins⟩

/-- What condensing and trimming leave of a report is cut at the same places,
and there is nothing to drop. -/
def Cut.again (cut : Cut raw) :
    Cut (cut.before ++ (banner ++ (cut.blanks ++ Text.trimEnd cut.user))) where
  before := cut.before
  dropped := []
  blanks := cut.blanks
  user := Text.trimEnd cut.user
  atBanner := first_banner_of_same_front cut.atBanner _
  atUser := first_user_code_behind_blanks cut.blank (user_code_trimmed (blank_before_user cut))
  blank := cut.blank
  solid := by simp

theorem condense_again (raw : Text) :
    condense (Text.trimEnd (condense raw)) = Text.trimEnd (condense raw) := by
  by_cases present : HasUserCode raw
  · obtain ⟨cut⟩ := cut_of_user_code present
    rw [trim_condensed cut, condense_of_cut cut.again]
    rfl
  · rw [condense_of_no_user_code present]
    apply condense_of_no_user_code
    intro trimmed
    obtain ⟨blanks, -, split⟩ := Text.trim_end_split raw
    apply present
    rw [split]
    exact has_user_code_append trimmed blanks

end Again

end Preamble

namespace Traceback

theorem normalize_again (raw : Text) : normalize (normalize raw) = normalize raw := by
  calc
    normalize (normalize raw) = Text.trimEnd (normalize raw) :=
      congrArg Text.trimEnd (Preamble.condense_again raw)
    _ = normalize raw := Text.trim_end_of_solid (Text.trim_end_is_solid (Preamble.condense raw))

theorem read_again (raw : Text) : read (read raw).text = read raw := by
  simp only [read, normalize_again]

/-- The text of a traceback reads as that traceback. So the one fragment that
shows the raw error is enough to present the same report once more. -/
theorem rereading_changes_nothing (raw : Text) :
    read (read raw).text = read raw ∧
    ∀ (presenter : Presenter) (buffer : List Text), ∃ shown,
      (presenter.present raw buffer).fragments.filter (fun fragment => fragment.kind = .rawError) =
          [shown] ∧
        presenter.present shown.text buffer = presenter.present raw buffer := by
  refine ⟨read_again raw, ?_⟩
  intro presenter buffer
  refine ⟨⟨.rawError, (read raw).text⟩, ?_, ?_⟩
  · cases found : (read raw).frame with
    | none =>
        rw [Presenter.present_of_no_frame found]
        rfl
    | some frame =>
        rw [Presenter.present_of_frame found]
        rfl
  · simp only [Presenter.present, read_again]

end Traceback

end TraceGloss
