import TraceGloss.Drawing.Window
import TraceGloss.Proofs.Text.Lengths
import TraceGloss.Proofs.Text.LineCuts

/-!
# The pass that finds a window

In front of a span the pass counts lines and remembers where the last ones
begin. From the span on, what it remembers stays as it is and only its end is
looked for. It goes on to the end of a line when lines behind the span are
wanted, and otherwise it may stop inside the line of the span, or in front of
it when the span is empty.
-/

namespace TraceGloss.Window

set_option autoImplicit false

open Text

section Steps

variable {span : Span} {before after : Nat} {here : Progress} {c : Char}
variable {starts : List Nat} {line : Nat}

/-- What a character does before the offset goes past it. -/
def Progress.meet (span : Span) (before after : Nat) (here : Progress) (c : Char) :
    Progress × Bool :=
  if c = '\r' ∨ c = '\n' then here.endLine span before after
  else if here.offset < span.offset then
    ({ here with column := here.column + c.utf8Size }, false)
  else (here, false)

theorem pass_eq (span : Span) (before after : Nat) (here : Progress) (c : Char) :
    here.pass span before after c =
      let met := here.meet span before after c
      let past := decide (lastByte span < here.offset + c.utf8Size)
      ({ met.1 with
          offset := here.offset + c.utf8Size
          reached := met.1.reached || (!met.2 && past) },
        met.2 || (past && decide (after ≤ met.1.linesAfter))) := by
  have met : here.pass span before after c =
      let met := here.meet span before after c
      let following := { met.1 with offset := here.offset + c.utf8Size }
      if met.2 then (following, true)
      else if lastByte span < here.offset + c.utf8Size then
        ({ following with reached := true }, decide (after ≤ following.linesAfter))
      else (following, false) := rfl
  rw [met]
  obtain ⟨next, complete⟩ := here.meet span before after c
  cases complete with
  | true => simp
  | false => by_cases past : lastByte span < here.offset + c.utf8Size <;> simp [past]

theorem pass_offset (span : Span) (before after : Nat) (here : Progress) (c : Char) :
    (here.pass span before after c).1.offset = here.offset + c.utf8Size := by
  rw [pass_eq]

theorem end_line_in_front (inFront : here.offset < span.offset) :
    here.endLine span before after =
      let starts := here.starts ++ [here.lineStart]
      let full := before < starts.length
      ({ here with
          column := 0
          lineStart := here.offset + 1
          line := if full then here.line + 1 else here.line
          starts := if full then starts.drop 1 else starts }, false) := by
  unfold Progress.endLine
  rw [if_pos inFront]
  simp only
  split <;> rfl

/-- The place of a span: the pass is at it or past it, with what it found of
the lines in front. -/
structure Progress.AtSpan (span : Span) (starts : List Nat) (line : Nat)
    (here : Progress) : Prop where
  offset : span.offset ≤ here.offset
  starts : here.starts = starts
  line : here.line = line
  column : here.column = 0

theorem Progress.AtSpan.end_line (found : here.AtSpan span starts line) :
    (here.endLine span before after).1.AtSpan span starts line := by
  obtain ⟨offset, starts, line, column⟩ := found
  unfold Progress.endLine
  rw [if_neg (Nat.not_lt.mpr offset)]
  split
  · cases here.ended with
    | true => exact ⟨offset, starts, line, rfl⟩
    | false => exact ⟨offset, starts, line, rfl⟩
  · exact ⟨offset, starts, line, column⟩

theorem Progress.AtSpan.pass (found : here.AtSpan span starts line) :
    (here.pass span before after c).1.AtSpan span starts line := by
  have met : (here.meet span before after c).1.AtSpan span starts line := by
    unfold Progress.meet
    split
    · exact found.end_line
    · rw [if_neg (Nat.not_lt.mpr found.offset)]
      exact found
  rw [pass_eq]
  exact ⟨found.offset.trans (Nat.le_add_right _ _), met.starts, met.line, met.column⟩

theorem end_line_past (complete : (here.endLine span before after).2 = true) :
    lastByte span ≤ here.offset := by
  by_cases inFront : here.offset < span.offset
  · rw [end_line_in_front inFront] at complete
    exact absurd complete Bool.false_ne_true
  · unfold Progress.endLine at complete
    rw [if_neg inFront] at complete
    split at complete
    · next behind =>
        have reach := behind.1
        unfold lastByte
        omega
    · exact absurd complete Bool.false_ne_true

theorem end_line_open (wanted : here.linesAfter < after)
    (goesOn : (here.endLine span before after).2 = false) :
    (here.endLine span before after).1.linesAfter < after := by
  unfold Progress.endLine at goesOn ⊢
  split
  · simp only
    split <;> exact wanted
  · next behind =>
      rw [if_neg behind] at goesOn
      split
      · next enough =>
          rw [if_pos enough] at goesOn
          simpa using goesOn
      · exact wanted

/-- A step that completes the window goes past the last byte of the span. -/
theorem pass_past (complete : (here.pass span before after c).2 = true) :
    lastByte span < here.offset + c.utf8Size := by
  simp only [pass_eq, Bool.or_eq_true, Bool.and_eq_true, decide_eq_true_eq] at complete
  rcases complete with met | ⟨past, -⟩
  · unfold Progress.meet at met
    split at met
    · exact Nat.lt_of_le_of_lt (end_line_past met) (Nat.lt_add_of_pos_right c.utf8Size_pos)
    · split at met <;> exact absurd met Bool.false_ne_true
  · exact past

/-- As long as lines are wanted behind the span, only a line end completes the
window. -/
theorem pass_line_end (wanted : here.linesAfter < after)
    (complete : (here.pass span before after c).2 = true) : c = '\r' ∨ c = '\n' := by
  by_contra inLine
  have met : (here.meet span before after c).2 = false ∧
      (here.meet span before after c).1.linesAfter = here.linesAfter := by
    unfold Progress.meet
    rw [if_neg inLine]
    split <;> exact ⟨rfl, rfl⟩
  simp only [pass_eq, met, Bool.false_or, Bool.and_eq_true, decide_eq_true_eq] at complete
  exact absurd complete.2 (Nat.not_le.mpr wanted)

theorem pass_open (wanted : here.linesAfter < after)
    (goesOn : (here.pass span before after c).2 = false) :
    (here.pass span before after c).1.linesAfter < after := by
  have met : (here.meet span before after c).2 = false := by
    simp only [pass_eq, Bool.or_eq_false_iff] at goesOn
    exact goesOn.1
  rw [pass_eq]
  unfold Progress.meet at met ⊢
  split
  · next lineEnd =>
      rw [if_pos lineEnd] at met
      exact end_line_open wanted met
  · split <;> exact wanted

end Steps

section Runs

variable {span : Span} {before after : Nat} {Holds : Progress → Prop} {here next finish : Progress}
variable {passed rest text : Text} {starts : List Nat} {line : Nat}

/-- A pass over the first part of a text. It stops at the end of the text, or
behind the character that completes the window. `Holds` is kept up to there. -/
structure Passed (span : Span) (before after : Nat) (Holds : Progress → Prop)
    (here finish : Progress) (passed rest : Text) : Prop where
  offset : finish.offset = here.offset + length8 passed
  ending : rest = [] ∧ Holds finish ∨
    ∃ last earlier c, Holds last ∧ passed = earlier ++ [c] ∧
      last.pass span before after c = (finish, true) ∧ ¬ (c = '\r' ∧ rest.head? = some '\n')

theorem Passed.cons {c : Char} (size : next.offset = here.offset + c.utf8Size)
    (later : Passed span before after Holds next finish passed rest) :
    Passed span before after Holds here finish (c :: passed) rest where
  offset := by rw [later.offset, size, length8_cons, Nat.add_assoc]
  ending := by
    rcases later.ending with ended | ⟨last, earlier, d, holds, rfl, stop, alone⟩
    · exact Or.inl ended
    · exact Or.inr ⟨last, c :: earlier, d, holds, rfl, stop, alone⟩

theorem scan_passes (skip : ∀ here, Holds here → Holds { here with offset := here.offset + 1 })
    (step : ∀ here c, Holds here → (here.pass span before after c).2 = false →
      Holds (here.pass span before after c).1) (text : Text) (start : Holds here) :
    ∃ passed rest, text = passed ++ rest ∧
      Passed span before after Holds here (scan span before after here text) passed rest := by
  induction text generalizing here with
  | nil => exact ⟨[], [], rfl, rfl, Or.inl ⟨rfl, start⟩⟩
  | cons c text ih =>
      rw [scan]
      split
      · next skipped =>
          obtain ⟨passed, rest, rfl, later⟩ := ih (skip here start)
          have size : c.utf8Size = 1 := by
            rw [skipped.1]
            rfl
          exact ⟨c :: passed, rest, rfl, later.cons (by rw [size])⟩
      · next kept =>
          have size := pass_offset span before after here c
          have holds := step here c start
          cases passing : here.pass span before after c with
          | mk next complete =>
              rw [passing] at size holds
              cases complete with
              | true =>
                  exact ⟨[c], text, rfl, size, Or.inr ⟨here, [], c, start, rfl, passing, kept⟩⟩
              | false =>
                  obtain ⟨passed, rest, rfl, later⟩ := ih (holds rfl)
                  exact ⟨c :: passed, rest, rfl, later.cons size⟩

/-- A pass goes past the last byte of the span, if the text does. -/
theorem scan_reaches (span : Span) (before after : Nat) (here : Progress) (text : Text) :
    lastByte span < (scan span before after here text).offset ∨
      (scan span before after here text).offset = here.offset + length8 text := by
  have passes : ∃ passed rest, text = passed ++ rest ∧ Passed span before after (fun _ => True) here
      (scan span before after here text) passed rest :=
    scan_passes (fun _ _ => trivial) (fun _ _ _ _ => trivial) text trivial
  obtain ⟨passed, rest, rfl, offset, ending⟩ := passes
  rcases ending with ⟨rfl, -⟩ | ⟨last, -, c, -, -, stop, -⟩
  · rw [List.append_nil] at offset ⊢
    exact Or.inr offset
  · have past := pass_past (congrArg Prod.snd stop)
    have size := pass_offset span before after last c
    rw [stop] at size
    exact Or.inl (by rwa [size])

/-- From the span on, a pass keeps what it found. -/
theorem scan_at_span (before after : Nat) (found : here.AtSpan span starts line) (text : Text) :
    (scan span before after here text).AtSpan span starts line := by
  have skip (here : Progress) (found : here.AtSpan span starts line) :
      { here with offset := here.offset + 1 }.AtSpan span starts line :=
    ⟨found.offset.trans (Nat.le_add_right _ 1), found.starts, found.line, found.column⟩
  obtain ⟨passed, rest, rfl, offset, ending⟩ :=
    scan_passes skip (fun _ _ found _ => found.pass) text found
  rcases ending with ⟨rfl, kept⟩ | ⟨last, earlier, c, kept, -, stop, -⟩
  · rw [List.append_nil] at kept ⊢
    exact kept
  · have next : (last.pass span before after c).1.AtSpan span starts line := kept.pass
    rw [stop] at next
    exact next

/-- While lines are wanted behind the span, a pass stops behind whole lines or
at the end of the text. -/
theorem scan_to_line_end (span : Span) (before : Nat) (wanted : here.linesAfter < after)
    (returns : ReturnsEndLines text) :
    ∃ passed rest, text = passed ++ rest ∧
      (scan span before after here text).offset = here.offset + length8 passed ∧
      (rest = [] ∨ passed ≠ [] ∧ WholeLines passed) := by
  have step (here : Progress) (c : Char) (wanted : here.linesAfter < after)
      (goesOn : (here.pass span before after c).2 = false) :
      (here.pass span before after c).1.linesAfter < after :=
    pass_open wanted goesOn
  obtain ⟨passed, rest, rfl, offset, ending⟩ :=
    scan_passes (fun _ wanted => wanted) step text wanted
  refine ⟨passed, rest, rfl, offset, ?_⟩
  rcases ending with ⟨ended, -⟩ | ⟨last, earlier, c, stillWanted, rfl, stop, alone⟩
  · exact Or.inl ended
  · right
    rcases pass_line_end stillWanted (congrArg Prod.snd stop) with rfl | rfl
    · rw [List.append_assoc] at returns
      exact absurd ⟨rfl, returns.behind.1 rfl⟩ alone
    · exact ⟨by simp, whole_lines_newline earlier⟩

end Runs

section Front

variable {span : Span} {before after : Nat} {here : Progress} {line text : Text}

theorem scan_return (text : Text) : scan span before after here ('\r' :: '\n' :: text) =
    scan span before after { here with offset := here.offset + 1 } ('\n' :: text) := by
  conv_lhs => rw [scan, if_pos ⟨rfl, rfl⟩]

theorem scan_char {c : Char} (kept : c ≠ '\r') (text : Text) :
    scan span before after here (c :: text) =
      if (here.pass span before after c).2 then (here.pass span before after c).1
      else scan span before after (here.pass span before after c).1 text := by
  rw [scan, if_neg fun skipped => kept skipped.1]
  rcases here.pass span before after c with ⟨next, complete | complete⟩ <;> rfl

theorem pass_content {c : Char} (inLine : c ≠ '\r' ∧ c ≠ '\n')
    (inFront : here.offset + c.utf8Size < span.offset) :
    here.pass span before after c =
      ({ here with
          offset := here.offset + c.utf8Size
          column := here.column + c.utf8Size }, false) := by
  have atFront : here.offset < span.offset := Nat.lt_of_le_of_lt (Nat.le_add_right _ _) inFront
  have notPast : ¬ lastByte span < here.offset + c.utf8Size := by
    unfold lastByte
    omega
  simp [pass_eq, Progress.meet, inLine, atFront, notPast]

theorem scan_content {content : Text} (quiet : '\r' ∉ content ∧ '\n' ∉ content) (text : Text)
    (inFront : here.offset + length8 content < span.offset) :
    scan span before after here (content ++ text) =
      scan span before after
        { here with
          offset := here.offset + length8 content
          column := here.column + length8 content } text := by
  induction content generalizing here with
  | nil => rfl
  | cons c content ih =>
      rw [length8_cons] at inFront
      have inLine : c ≠ '\r' ∧ c ≠ '\n' := by
        constructor <;> rintro rfl <;> simp at quiet
      have later : '\r' ∉ content ∧ '\n' ∉ content :=
        ⟨fun member => quiet.1 (List.mem_cons_of_mem c member),
          fun member => quiet.2 (List.mem_cons_of_mem c member)⟩
      have passed : here.offset + c.utf8Size < span.offset := by omega
      rw [List.cons_append, scan_char inLine.1, pass_content inLine passed]
      simp only [Bool.false_eq_true, if_false]
      rw [ih later (by simpa only [Nat.add_assoc] using inFront)]
      simp only [length8_cons, Nat.add_assoc]

theorem pass_newline (inFront : here.offset < span.offset) :
    here.pass span before after '\n' =
      let starts := here.starts ++ [here.lineStart]
      let full := before < starts.length
      let past := decide (lastByte span < here.offset + 1)
      ({ here with
          offset := here.offset + 1
          column := 0
          lineStart := here.offset + 1
          line := if full then here.line + 1 else here.line
          starts := if full then starts.drop 1 else starts
          reached := here.reached || past }, past && decide (after ≤ here.linesAfter)) := by
  rw [pass_eq, Progress.meet, if_pos (Or.inr rfl), end_line_in_front inFront]
  rfl

/-- Where some lines begin, the first of them at the offset. -/
def lineStarts (offset : Nat) : List Text → List Nat
  | [] => []
  | line :: more => offset :: lineStarts (offset + length8 line + 1) more

theorem line_starts_length (offset : Nat) (early : List Text) :
    (lineStarts offset early).length = early.length := by
  induction early generalizing offset with
  | nil => rfl
  | cons line early ih => rw [lineStarts, List.length_cons, List.length_cons, ih]

theorem line_starts_concat (offset : Nat) (early : List Text) (line : Text) :
    lineStarts offset (early ++ [line]) =
      lineStarts offset early ++ [offset + length8 (unlines early)] := by
  induction early generalizing offset with
  | nil => rfl
  | cons first early ih =>
      rw [List.cons_append, lineStarts, ih, lineStarts, length8_unlines_cons, List.cons_append,
        Nat.add_assoc, Nat.add_assoc]

/-- The progress behind some lines in front of the span. -/
def Progress.behindLines (span : Span) (before : Nat) (early : List Text) : Progress where
  offset := length8 (unlines early)
  line := early.length - before
  lineStart := length8 (unlines early)
  reached := decide (lastByte span < length8 (unlines early))
  starts := (lineStarts 0 early).drop (early.length - before)

theorem starts_drop (before : Nat) (early : List Text) (line : Text) :
    let starts := (lineStarts 0 early).drop (early.length - before) ++ [length8 (unlines early)]
    (lineStarts 0 (early ++ [line])).drop ((early ++ [line]).length - before) =
      if before < starts.length then starts.drop 1 else starts := by
  have count := line_starts_length 0 early
  simp only [List.length_append, List.length_drop, count, List.length_singleton]
  rw [line_starts_concat, Nat.zero_add]
  split
  · next full =>
      have one : early.length + 1 - before = early.length - before + 1 := by omega
      rw [one, ← List.drop_drop, List.drop_append_of_le_length (by omega)]
  · next room =>
      have none : early.length + 1 - before = 0 := by omega
      have noneYet : early.length - before = 0 := by omega
      rw [none, noneYet, List.drop_zero, List.drop_zero]

theorem lines_dropped (before : Nat) (early : List Text) (line : Text) :
    let starts := (lineStarts 0 early).drop (early.length - before) ++ [length8 (unlines early)]
    (early ++ [line]).length - before =
      if before < starts.length then early.length - before + 1 else early.length - before := by
  simp only [List.length_append, List.length_drop, line_starts_length, List.length_singleton]
  split <;> omega

/-- The newline of a line takes the pass from the lines before to those with it. -/
theorem pass_behind_line (before after : Nat) {early : List Text}
    (inFront : length8 (unlines (early ++ [line])) ≤ span.offset) (column : Nat) :
    let here := Progress.behindLines span before early
    let next := Progress.behindLines span before (early ++ [line])
    { here with offset := here.offset + length8 line, column := column }.pass span before after
        '\n' =
      (next, decide (lastByte span < length8 (unlines (early ++ [line])) ∧ after = 0)) := by
  intro here next
  have size : next.offset = here.offset + length8 line + 1 := length8_unlines_concat early line
  have ahead : here.offset + length8 line < span.offset := by
    change next.offset ≤ span.offset at inFront
    omega
  have reached : (here.reached || decide (lastByte span < next.offset)) = next.reached := by
    have later : here.offset ≤ next.offset := by omega
    change (decide (lastByte span < here.offset) || decide (lastByte span < next.offset)) =
      decide (lastByte span < next.offset)
    rw [← Bool.decide_or, decide_eq_decide]
    exact or_iff_right_of_imp fun past => Nat.lt_of_lt_of_le past later
  have starts : next.starts = if before < (here.starts ++ [here.lineStart]).length then
      (here.starts ++ [here.lineStart]).drop 1 else here.starts ++ [here.lineStart] :=
    starts_drop before early line
  have lines : next.line = if before < (here.starts ++ [here.lineStart]).length then
      here.line + 1 else here.line :=
    lines_dropped before early line
  rw [pass_newline ahead]
  simp only
  rw [← size, ← lines, ← starts, reached]
  simp [next, here, Progress.behindLines]

theorem scan_line (before after : Nat) {early : List Text} (shown : '\r' ∉ dropReturn line)
    (oneLine : '\n' ∉ line) (inFront : length8 (unlines (early ++ [line])) ≤ span.offset)
    (text : Text) :
    scan span before after (.behindLines span before early) (line ++ '\n' :: text) =
      if lastByte span < length8 (unlines (early ++ [line])) ∧ after = 0 then
        .behindLines span before (early ++ [line])
      else scan span before after (.behindLines span before (early ++ [line])) text := by
  have newline (column : Nat) := pass_behind_line before after inFront column
  have size : length8 (unlines (early ++ [line])) =
      length8 (unlines early) + (length8 line + 1) := length8_unlines_concat early line
  have noNewline := newline_not_mem_shown_line oneLine
  have lineFeed : '\n' ≠ '\r' := by decide
  rcases drop_return_cases line with same | split
  · rw [same] at shown noNewline
    have inLine : (Progress.behindLines span before early).offset + length8 line < span.offset := by
      change length8 (unlines early) + length8 line < span.offset
      omega
    rw [scan_content ⟨shown, noNewline⟩ _ inLine, scan_char lineFeed, newline]
    simp
  · generalize dropReturn line = content at split shown noNewline
    subst split
    have length : length8 (content ++ ['\r']) = length8 content + 1 := length8_append content ['\r']
    have inLine : (Progress.behindLines span before early).offset + length8 content <
        span.offset := by
      change length8 (unlines early) + length8 content < span.offset
      omega
    rw [length] at newline
    -- the carriage return is passed together with the newline
    rw [List.append_assoc, scan_content ⟨shown, noNewline⟩ _ inLine, List.singleton_append,
      scan_return, scan_char lineFeed]
    simp only [Nat.add_assoc] at newline ⊢
    rw [newline]
    simp

/-- In front of the span the pass goes on, unless no line is wanted behind an
empty span and the last newline in front of it is passed. -/
theorem scan_lines (before after : Nat) {passed early : List Text} {text : Text}
    (shown : ∀ line ∈ early, '\r' ∉ dropReturn line ∧ '\n' ∉ line)
    (inFront : length8 (unlines (passed ++ early)) ≤ span.offset)
    (goesOn : after = 0 → length8 (unlines (passed ++ early)) ≤ lastByte span) :
    scan span before after (.behindLines span before passed) (unlines early ++ text) =
      scan span before after (.behindLines span before (passed ++ early)) text := by
  induction early generalizing passed with
  | nil => rw [List.append_nil]; rfl
  | cons line early ih =>
      obtain ⟨noReturn, oneLine⟩ := shown line List.mem_cons_self
      rw [List.append_cons] at inFront goesOn
      have upToLine := length8_unlines_append (passed ++ [line]) early
      have atLine : length8 (unlines (passed ++ [line])) ≤ span.offset := by omega
      have next := scan_line before after noReturn oneLine atLine (unlines early ++ text)
      have notComplete : ¬ (lastByte span < length8 (unlines (passed ++ [line])) ∧ after = 0) := by
        rintro ⟨past, noneWanted⟩
        have room := goesOn noneWanted
        omega
      rw [unlines_cons, next, if_neg notComplete, List.append_cons passed line early]
      exact ih (fun other member => shown other (List.mem_cons_of_mem line member)) inFront goesOn

end Front

section Reading

variable {source line rest : Text} {early : List Text} {span : Span} {before after : Nat}

theorem scan_source (before after : Nat) (cut : LineCut source early line rest)
    (returns : ReturnsEndLines source) (inFront : length8 (unlines early) ≤ span.offset)
    (goesOn : after = 0 → length8 (unlines early) ≤ lastByte span) :
    scan span before after {} source =
      scan span before after (.behindLines span before early) (line ++ rest) := by
  have start : Progress.behindLines span before [] = {} := by
    simp [Progress.behindLines, unlines, lineStarts]
  rw [cut.split] at returns ⊢
  have noReturn := returns.shown_lines cut.oneLine
  rw [← start]
  have shown (other : Text) (member : other ∈ early) : '\r' ∉ dropReturn other ∧ '\n' ∉ other :=
    ⟨noReturn other member, cut.oneLine other member⟩
  exact scan_lines before after shown inFront goesOn

/-- The text behind the cut is long enough for a span that begins there. -/
theorem offset_reached {finish : Progress} (within : span.length ≤ length8 line)
    (atLine : span.offset = length8 (unlines early))
    (found : lastByte span < finish.offset ∨
      finish.offset = length8 (unlines early) + length8 (line ++ rest)) :
    ¬ finish.offset < lastByte span := by
  rw [length8_append] at found
  unfold lastByte at found ⊢
  omega

theorem behind_lines_at_span (before : Nat) (atLine : span.offset = length8 (unlines early)) :
    (Progress.behindLines span before early).AtSpan span
      ((lineStarts 0 early).drop (early.length - before)) (early.length - before) :=
  ⟨atLine.le, rfl, rfl, rfl⟩

/-- The pass of a place stops in front of an empty span that is behind a line. -/
theorem scan_to_empty_span (cut : LineCut source early line rest) (returns : ReturnsEndLines source)
    (atLine : span.offset = length8 (unlines early))
    (stops : lastByte span < length8 (unlines early)) :
    scan span 0 0 {} source = .behindLines span 0 early := by
  rcases List.eq_nil_or_concat' early with rfl | ⟨more, previous, rfl⟩
  · exact absurd stops (Nat.not_lt_zero _)
  · have size := length8_unlines_concat more previous
    have oneLine := cut.oneLine previous (by simp)
    have shown : '\r' ∉ dropReturn previous := by
      have split := cut.split
      rw [split] at returns
      exact returns.shown_lines cut.oneLine previous (by simp)
    have earlier : LineCut source more previous ('\n' :: (line ++ rest)) := by
      refine ⟨?_, fun other member => cut.oneLine other (by simp [member]), oneLine,
        Or.inr ⟨_, rfl⟩⟩
      rw [cut.split, unlines_concat]
      simp
    have before : length8 (unlines more) ≤ lastByte span := by
      unfold lastByte
      omega
    rw [scan_source 0 0 earlier returns (by omega) fun _ => before,
      scan_line 0 0 shown oneLine atLine.ge, if_pos ⟨stops, rfl⟩]

/-- The place of a span that begins with a line: so many lines are in front of it. -/
theorem read_place (cut : LineCut source early line rest) (returns : ReturnsEndLines source)
    (within : span.length ≤ length8 line) (atLine : span.offset = length8 (unlines early)) :
    ∃ place, read? 0 0 source span = some place ∧ place.line = early.length ∧
      place.column = 0 := by
  have found : ∃ starts, (scan span 0 0 {} source).AtSpan span starts early.length ∧
      ¬ (scan span 0 0 {} source).offset < lastByte span := by
    -- an empty span behind a newline has its last byte in front of itself
    by_cases goesOn : length8 (unlines early) ≤ lastByte span
    · rw [scan_source 0 0 cut returns atLine.ge fun _ => goesOn]
      exact ⟨_, scan_at_span 0 0 (behind_lines_at_span 0 atLine) (line ++ rest),
        offset_reached within atLine (scan_reaches span 0 0 _ (line ++ rest))⟩
    · have stops : lastByte span < length8 (unlines early) := Nat.lt_of_not_le goesOn
      rw [scan_to_empty_span cut returns atLine stops]
      exact ⟨_, behind_lines_at_span 0 atLine, Nat.not_lt.mpr stops.le⟩
  obtain ⟨starts, kept, reached⟩ := found
  rw [read?, if_neg reached]
  exact ⟨_, rfl, kept.line, kept.column⟩

theorem last_start (early : List Text) :
    ((lineStarts 0 early).drop (early.length - 1)).head?.getD 0 =
      length8 (unlines early.dropLast) := by
  rcases List.eq_nil_or_concat' early with rfl | ⟨more, previous, rfl⟩
  · rfl
  · have count := line_starts_length 0 more
    rw [line_starts_concat, List.dropLast_concat, List.length_append,
      List.length_singleton, Nat.add_sub_cancel, List.drop_left' count]
    simp

/-- The window around a span that begins with a line: it begins with the line
before and ends behind whole lines, or with the source. -/
theorem read_window (cut : LineCut source early line rest) (returns : ReturnsEndLines source)
    (within : span.length ≤ length8 line) (atLine : span.offset = length8 (unlines early)) :
    ∃ passed left, line ++ rest = passed ++ left ∧
      (left = [] ∨ passed ≠ [] ∧ WholeLines passed) ∧
      read? 1 1 source span = some {
        start := length8 (unlines early.dropLast)
        stop := length8 (unlines early) + length8 passed
        line := early.length - 1
        column := 0 } := by
  have pass := scan_source 1 1 cut returns atLine.ge (by simp)
  have kept := scan_at_span 1 1 (behind_lines_at_span 1 atLine) (line ++ rest)
  have reached := offset_reached within atLine
    (scan_reaches span 1 1 (.behindLines span 1 early) (line ++ rest))
  rw [cut.split] at returns
  have wanted : (Progress.behindLines span 1 early).linesAfter < 1 := Nat.zero_lt_one
  obtain ⟨passed, left, split, stop, whole⟩ := scan_to_line_end span 1 wanted returns.behind
  refine ⟨passed, left, split, whole, ?_⟩
  rw [read?, pass, if_neg reached, kept.starts, kept.line, stop]
  simp only [Nat.one_ne_zero, if_false, last_start]
  rfl

end Reading

end TraceGloss.Window
