import TraceGloss.Proofs.Traceback.FrameGrammar

/-!
# What condensing drops

A report is cut at its first banner and at the first user locator after it
that a blank stands directly before. Condensing drops what lies between the
banner and the blanks before that locator, and nothing else; a report that
cannot be cut so is kept. What is dropped has no influence on the traceback.
-/

namespace TraceGloss

set_option autoImplicit false

namespace Preamble

def IsBanner (_before after : Text) : Prop :=
  banner <+: after

/-- A user locator begins at a place, up to the first digit of its line number,
and a blank stands directly before it. -/
def IsUserCode (before after : Text) : Prop :=
  (∃ c ∈ before.getLast?, Text.isBlank c = true) ∧
    ∃ digit rest, after = userLocator ++ digit :: rest ∧ Text.isDecimalDigit digit = true

def HasUserCode (raw : Text) : Prop :=
  ∃ before after gap user, Text.First IsBanner raw before (banner ++ after) ∧
    after = gap ++ user ∧ IsUserCode gap user

/-- A report cut at its first banner and at the first user locator after it.
The blanks before the locator are all that stand there. -/
structure Cut (raw : Text) where
  before : Text
  dropped : Text
  blanks : Text
  user : Text
  atBanner : Text.First IsBanner raw before (banner ++ (dropped ++ blanks ++ user))
  atUser : Text.First IsUserCode (dropped ++ blanks ++ user) (dropped ++ blanks) user
  blank : ∀ c ∈ blanks, Text.isBlank c = true
  solid : ∀ c ∈ dropped.getLast?, Text.isBlank c = false

theorem banner_ne_nil : banner ≠ [] := by
  decide

theorem begins_locator_iff {text : Text} :
    beginsLocator text = true ↔
      ∃ digit rest, text = userLocator ++ digit :: rest ∧ Text.isDecimalDigit digit = true := by
  unfold beginsLocator
  constructor
  · intro begins
    split at begins
    · next digit rest after => exact ⟨digit, rest, Text.after_eq_some_iff.mp after, begins⟩
    · simp at begins
  · rintro ⟨digit, rest, rfl, isDigit⟩
    rw [Text.after_append]
    exact isDigit

instance (before after : Text) : Decidable (IsBanner before after) :=
  inferInstanceAs (Decidable (banner <+: after))

instance (before after : Text) : Decidable (IsUserCode before after) :=
  decidable_of_iff _ (and_congr_right fun _ => begins_locator_iff)

theorem after_banner_none {text : Text} (absent : ¬ banner <+: text) :
    Text.after? banner text = none := by
  cases found : Text.after? banner text with
  | none => rfl
  | some rest => exact absurd ⟨rest, (Text.after_eq_some_iff.mp found).symm⟩ absent

theorem is_user_code_iff {before after : Text} :
    IsUserCode before after ↔
      Text.endsIn Text.isBlank false before = true ∧ beginsLocator after = true := by
  rw [IsUserCode, begins_locator_iff, Text.ends_in_eq]
  cases before.getLast? <;> simp

section UserCode

theorem user_code_from_blanks {blanks user : Text} {pending : Option Text}
    (blank : ∀ c ∈ blanks, Text.isBlank c = true) (nonempty : blanks ≠ []) :
    userCodeFrom pending (blanks ++ user) =
      userCodeFrom (some (pending.getD (blanks ++ user))) user := by
  induction blanks generalizing pending with
  | nil => exact absurd rfl nonempty
  | cons c blanks ih =>
      have here : Text.isBlank c = true := blank c (by simp)
      rw [List.cons_append, userCodeFrom, if_pos here]
      cases blanks with
      | nil => rfl
      | cons d blanks =>
          exact ih (fun e member => blank e (List.mem_cons_of_mem _ member)) (by simp)

theorem begins_locator_solid {user : Text} (begins : beginsLocator user = true) :
    ∃ c rest, user = c :: rest ∧ Text.isBlank c = false := by
  obtain ⟨digit, rest, rfl, -⟩ := begins_locator_iff.mp begins
  exact ⟨'F', _, rfl, by decide⟩

/-- Where no user locator begins behind a blank, the scan passes a character and
remembers whether it was a blank. -/
theorem user_code_step {c : Char} {rest : Text} {pending : Option Text}
    (notHere : pending.isSome = true → beginsLocator (c :: rest) = false) :
    ∃ next : Option Text, next.isSome = Text.isBlank c ∧
      userCodeFrom pending (c :: rest) = userCodeFrom next rest := by
  by_cases here : Text.isBlank c = true
  · exact ⟨some (pending.getD (c :: rest)), here.symm, by rw [userCodeFrom, if_pos here]⟩
  · refine ⟨none, (Bool.eq_false_iff.mpr here).symm, ?_⟩
    rw [userCodeFrom, if_neg here, if_neg]
    intro begins
    simp only [Bool.and_eq_true] at begins
    rw [notHere begins.2] at begins
    exact Bool.false_ne_true begins.1

/-- The scan stops at the first user locator behind a blank. The flag that the
pending blanks make says whether one stands before the text at hand. -/
theorem user_code_from_first {dropped blanks user : Text} {pending : Option Text}
    (first : Text.First (fun before after =>
        Text.endsIn Text.isBlank pending.isSome before = true ∧ beginsLocator after = true)
      (dropped ++ blanks ++ user) (dropped ++ blanks) user)
    (blank : ∀ c ∈ blanks, Text.isBlank c = true) (nonempty : blanks ≠ [])
    (solid : ∀ c ∈ dropped.getLast?, Text.isBlank c = false)
    (fresh : dropped = [] → pending = none) :
    userCodeFrom pending (dropped ++ blanks ++ user) = some (blanks ++ user) := by
  induction dropped generalizing pending with
  | nil =>
      obtain ⟨c, rest, rfl, visible⟩ := begins_locator_solid first.holds.2
      rw [List.nil_append, user_code_from_blanks blank nonempty, fresh rfl, userCodeFrom,
        if_neg (by simp [visible]), if_pos (by simp [first.holds.2])]
      rfl
  | cons c dropped ih =>
      have notHere : pending.isSome = true →
          beginsLocator (c :: (dropped ++ blanks ++ user)) = false := by
        intro behindBlank
        by_contra begins
        have tooEarly := first.earliest [] _ rfl ⟨behindBlank, by simpa using begins⟩
        simp at tooEarly
      obtain ⟨next, flag, step⟩ := user_code_step notHere
      rw [List.cons_append, List.cons_append, step]
      apply ih
      · rw [flag]
        exact first.tail
      · intro d last
        apply solid d
        rw [List.getLast?_cons, Option.mem_def.mp last]
        rfl
      · -- what is dropped does not end in a blank
        rintro rfl
        rw [solid c rfl] at flag
        simpa using flag

theorem user_code_from_none {text : Text} {pending : Option Text}
    (absent : ∀ before after, text = before ++ after →
      Text.endsIn Text.isBlank pending.isSome before = true → beginsLocator after = false) :
    userCodeFrom pending text = none := by
  induction text generalizing pending with
  | nil => rfl
  | cons c rest ih =>
      obtain ⟨next, flag, step⟩ := user_code_step (absent [] (c :: rest) rfl)
      rw [step]
      apply ih
      intro before after split ends
      apply absent (c :: before) after (by rw [split]; rfl)
      rw [Text.endsIn, ← flag]
      exact ends

end UserCode

section Condensing

variable {raw before after : Text}

theorem condense_of_first_banner (first : Text.First IsBanner raw before (banner ++ after)) :
    condense raw = before ++ (banner ++ (userCode? after).getD after) := by
  induction before generalizing raw with
  | nil =>
      rw [first.split, List.nil_append]
      -- the banner is not empty, so the scan looks at its first character
      cases split : banner ++ after with
      | nil => exact absurd (List.append_eq_nil_iff.mp split).1 banner_ne_nil
      | cons c rest =>
          rw [condense, ← split, Text.after_append]
          rfl
  | cons c before ih =>
      have split := first.split
      rw [List.cons_append] at split
      subst split
      have notHere : ¬ banner <+: c :: (before ++ (banner ++ after)) := by
        intro here
        have tooEarly := first.earliest [] _ rfl here
        simp at tooEarly
      rw [condense, after_banner_none notHere, ih first.tail]
      rfl

theorem condense_of_no_banner (absent : ¬ banner <:+: raw) : condense raw = raw := by
  induction raw with
  | nil => rfl
  | cons c rest ih =>
      have notHere : ¬ banner <+: c :: rest := fun here => absent here.isInfix
      have notLater : ¬ banner <:+: rest := fun later => absent (List.infix_cons later)
      rw [condense, after_banner_none notHere]
      change c :: condense rest = c :: rest
      rw [ih notLater]

theorem exists_first_banner (present : banner <:+: raw) :
    ∃ before after, Text.First IsBanner raw before (banner ++ after) := by
  obtain ⟨front, back, split⟩ := present
  have somewhere : ∃ before after, raw = before ++ after ∧ IsBanner before after :=
    ⟨front, banner ++ back, by rw [← split, List.append_assoc], List.prefix_append _ _⟩
  obtain ⟨before, rest, first⟩ := Text.exists_first somewhere
  obtain ⟨after, rfl⟩ := first.holds
  exact ⟨before, after, first⟩

end Condensing

section Cuts

variable {raw : Text}

theorem Cut.blanks_ne_nil (cut : Cut raw) : cut.blanks ≠ [] := by
  intro empty
  obtain ⟨c, last, blank⟩ := cut.atUser.holds.1
  rw [empty, List.append_nil] at last
  rw [cut.solid c last] at blank
  exact Bool.false_ne_true blank

theorem Cut.solid_before_blanks (cut : Cut raw) :
    ∀ c ∈ (cut.before ++ (banner ++ cut.dropped)).getLast?, Text.isBlank c = false := by
  intro c last
  rw [← List.append_assoc, List.getLast?_append] at last
  cases dropped : cut.dropped.getLast? with
  | none =>
      rw [dropped, Option.none_or, List.getLast?_append_of_ne_nil _ banner_ne_nil] at last
      rw [← Option.some.inj last]
      decide
  | some d =>
      rw [dropped] at last
      exact cut.solid c (dropped.trans last)

theorem condense_of_cut (cut : Cut raw) :
    condense raw = cut.before ++ (banner ++ (cut.blanks ++ cut.user)) := by
  have first : Text.First (fun before after =>
      Text.endsIn Text.isBlank false before = true ∧ beginsLocator after = true)
      (cut.dropped ++ cut.blanks ++ cut.user) (cut.dropped ++ cut.blanks) cut.user := by
    have same : IsUserCode = fun before after =>
        Text.endsIn Text.isBlank false before = true ∧ beginsLocator after = true := by
      funext before after
      exact propext is_user_code_iff
    rw [← same]
    exact cut.atUser
  have found : userCode? (cut.dropped ++ cut.blanks ++ cut.user) =
      some (cut.blanks ++ cut.user) :=
    user_code_from_first first cut.blank cut.blanks_ne_nil cut.solid (fun _ => rfl)
  rw [condense_of_first_banner cut.atBanner, found]
  rfl

theorem cut_of_user_code (present : HasUserCode raw) : Nonempty (Cut raw) := by
  obtain ⟨before, after, gap, user, atBanner, split, holds⟩ := present
  obtain ⟨front, user, first⟩ := Text.exists_first ⟨gap, user, split, holds⟩
  obtain ⟨blanks, blank, frontSplit⟩ := Text.trim_end_split front
  have afterSplit : after = Text.trimEnd front ++ blanks ++ user := by
    rw [← frontSplit]
    exact first.split
  refine ⟨⟨before, Text.trimEnd front, blanks, user, ?_, ?_, blank, ?_⟩⟩
  · rw [← afterSplit]
    exact atBanner
  · rw [← afterSplit, ← frontSplit]
    exact first
  · exact Text.trim_end_is_solid front

theorem user_code_of_cut (cut : Cut raw) : HasUserCode raw :=
  ⟨cut.before, _, _, _, cut.atBanner, rfl, cut.atUser.holds⟩

theorem condense_of_no_user_code (absent : ¬ HasUserCode raw) : condense raw = raw := by
  by_cases present : banner <:+: raw
  · obtain ⟨before, after, first⟩ := exists_first_banner present
    have none : userCode? after = none := by
      apply user_code_from_none
      intro gap user split behindBlank
      by_contra begins
      apply absent
      exact ⟨before, after, gap, user, first, split,
        is_user_code_iff.mpr ⟨behindBlank, by simpa using begins⟩⟩
    rw [condense_of_first_banner first, none]
    exact first.split.symm
  · exact condense_of_no_banner present

end Cuts

end Preamble

namespace Traceback

/-- Reading drops what lies between the first banner and the blanks before the
first user locator, and the blanks at the end. Nothing that is dropped there
has any influence on the traceback. -/
theorem read_drops_only_the_preamble (raw : Text) :
    (Preamble.HasUserCode raw ↔ Nonempty (Preamble.Cut raw)) ∧
    (∀ cut : Preamble.Cut raw, (read raw).text =
      Text.trimEnd (cut.before ++ (Preamble.banner ++ (cut.blanks ++ cut.user)))) ∧
    (¬ Preamble.HasUserCode raw → (read raw).text = Text.trimEnd raw) ∧
    ∀ (other : Text) (cut : Preamble.Cut raw) (otherCut : Preamble.Cut other),
      otherCut.before = cut.before → otherCut.blanks = cut.blanks → otherCut.user = cut.user →
        read other = read raw := by
  refine ⟨⟨Preamble.cut_of_user_code, ?_⟩, ?_, ?_, ?_⟩
  · rintro ⟨cut⟩
    exact Preamble.user_code_of_cut cut
  · intro cut
    exact congrArg Text.trimEnd (Preamble.condense_of_cut cut)
  · intro absent
    exact congrArg Text.trimEnd (Preamble.condense_of_no_user_code absent)
  · intro other cut otherCut befores blanks users
    have condensed : Preamble.condense other = Preamble.condense raw := by
      rw [Preamble.condense_of_cut cut, Preamble.condense_of_cut otherCut, befores, blanks, users]
    simp only [read, normalize, condensed]

section Frame

variable {front indent following : Text} {locator : Locator}

/-- The frame depends only on what begins with a locator on a line of its own. -/
theorem frame_from_locator (whole : Text.WholeLines front)
    (indented : ∀ c ∈ indent, Text.isIndent c = true) (wellFormed : locator.WellFormed)
    (continued : ∃ c ∈ following, Text.isBlank c = false) :
    Frame.read? (Text.trimEnd (front ++ (indent ++ (locator.written ++ following)))) =
      Frame.read? (indent ++ (locator.written ++ Text.trimEnd following)) := by
  have trimmed : Text.trimEnd (front ++ (indent ++ (locator.written ++ following))) =
      front ++ (indent ++ (locator.written ++ Text.trimEnd following)) := by
    have kept : Text.trimEnd ((front ++ (indent ++ locator.written)) ++ following) =
        (front ++ (indent ++ locator.written)) ++ Text.trimEnd following :=
      Text.trim_end_append continued
    simpa only [List.append_assoc] using kept
  have here := Locator.read_written indented wellFormed (Text.trimEnd following)
  obtain ⟨found, last⟩ :=
    Option.isSome_iff_exists.mp (Locator.last_of_read (Option.isSome_of_eq_some here))
  rw [trimmed]
  exact Frame.read_append whole last

/-- Condensing keeps the frame of a report whose first user locator is a line of
its own and is followed by more than blanks. -/
theorem condensing_keeps_the_frame {raw : Text} (cut : Preamble.Cut raw)
    (lines indent : Text) (locator : Locator) (following : Text)
    (lineStart : cut.before ++ (Preamble.banner ++ (cut.dropped ++ cut.blanks)) =
      lines ++ '\n' :: indent)
    (indented : ∀ c ∈ indent, Text.isIndent c = true)
    (complete : cut.user = locator.written ++ following) (wellFormed : locator.WellFormed)
    (continued : ∃ c ∈ following, Text.isBlank c = false) :
    (read raw).frame = Frame.read? (Text.trimEnd raw) := by
  have blank : ∀ c ∈ '\n' :: indent, Text.isBlank c = true := by
    intro c member
    rcases List.mem_cons.mp member with rfl | member
    · decide
    · exact Text.indent_is_blank (indented c member)
  obtain ⟨more, blanks⟩ := Text.run_suffix (by simpa using lineStart) cut.solid_before_blanks blank
  have rawSplit : raw = (lines ++ ['\n']) ++ (indent ++ (locator.written ++ following)) := by
    calc
      raw = (cut.before ++ (Preamble.banner ++ (cut.dropped ++ cut.blanks))) ++ cut.user := by
        simpa using cut.atBanner.split
      _ = _ := by
        rw [lineStart, complete]
        simp
  have condensed : Preamble.condense raw =
      (cut.before ++ (Preamble.banner ++ more) ++ ['\n']) ++
        (indent ++ (locator.written ++ following)) := by
    rw [Preamble.condense_of_cut cut, complete, blanks]
    simp
  have whole := Text.whole_lines_newline (cut.before ++ (Preamble.banner ++ more))
  have wholeRaw := Text.whole_lines_newline lines
  calc
    (read raw).frame = Frame.read? (Text.trimEnd (Preamble.condense raw)) := rfl
    _ = Frame.read? (indent ++ (locator.written ++ Text.trimEnd following)) := by
      rw [condensed]
      exact frame_from_locator whole indented wellFormed continued
    _ = Frame.read? (Text.trimEnd raw) := by
      rw [rawSplit]
      exact (frame_from_locator wholeRaw indented wellFormed continued).symm

/-- A frame of the sandbox, and a user locator that no blank stands before. -/
def sandboxFrames : Text :=
  "\n File \"a\", line 9\n(File \"<exec>\", line 7".toList

def userFrame : Text :=
  "File \"<exec>\", line 3\n1/0\nE: by: 0\n".toList

def sandboxReport : Text :=
  Preamble.banner ++ (sandboxFrames ++ ['\n', '\t'] ++ userFrame)

def sandboxCut : Preamble.Cut sandboxReport where
  before := []
  dropped := sandboxFrames
  blanks := ['\n', '\t']
  user := userFrame
  atBanner := Text.first_of_positions rfl (List.prefix_append _ _) (by simp)
  atUser := Text.first_of_positions rfl (by decide) (by decide +kernel)
  blank := by decide
  solid := by decide

theorem condensing_keeps_the_frame_of_a_report :
    sandboxCut.dropped ≠ [] ∧
      (read sandboxReport).frame = Frame.read? (Text.trimEnd sandboxReport) ∧
      (read sandboxReport).frame =
        some ⟨"<exec>".toList, 3, none, "1/0\n".toList, ['E'], "by: 0".toList⟩ :=
  ⟨by decide,
    condensing_keeps_the_frame sandboxCut (Preamble.banner ++ sandboxFrames) ['\t']
      ⟨"<exec>".toList, ['3'], none⟩ "1/0\nE: by: 0\n".toList rfl (by decide) (by decide +kernel)
      ⟨by decide, by decide, by decide, by decide, by decide⟩ (by decide),
    by decide +kernel⟩

end Frame

end Traceback

end TraceGloss
