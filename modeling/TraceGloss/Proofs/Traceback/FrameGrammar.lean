import TraceGloss.Proofs.Traceback.LocatorGrammar
import TraceGloss.Traceback.Basic
import Mathlib.Logic.IsEmpty.Basic

/-!
# The grammar of frames

A text can often be cut into a locator, a snippet and an exception line in
several ways. Reading takes one of them: the locator that begins farthest
behind, then the shortest snippet, then the widest gap behind the type. There
is no frame when no cut exists, or when the line number of that locator is too
large. In no case does another locator take its place.
-/

namespace TraceGloss

set_option autoImplicit false

namespace ExceptionLine

/-- A token of the line, directly before a colon. What stands before it may
still end in characters of the token's kind. -/
structure Token (line lead token rest : Text) : Prop where
  spells : line = lead ++ (token ++ ':' :: rest)
  nonempty : token ≠ []
  typed : ∀ c ∈ token, isTypeChar c = true

/-- The first whole token of the line that a colon follows. -/
structure FirstToken (line lead token rest : Text) : Prop extends
    Token line lead token rest where
  whole : ∀ c ∈ lead.getLast?, isTypeChar c = false
  first : ∀ lead' token' rest', Token line lead' token' rest' → lead.length ≤ lead'.length

theorem colon_is_no_type_char : isTypeChar ':' = false := by
  decide

theorem newline_is_no_type_char : isTypeChar '\n' = false := by
  decide

theorem push_sound {c d : Char} {rest after : Text} {cut : ExceptionLine}
    (token : Token (d :: rest) cut.lead cut.exceptionType after) :
    Token (c :: d :: rest) (push c cut).lead (push c cut).exceptionType after := by
  unfold push
  split
  · next kind =>
      simp only [Bool.and_eq_true, List.isEmpty_iff] at kind
      obtain ⟨typed, leadEmpty⟩ := kind
      constructor
      · simp [token.spells, leadEmpty]
      · simp
      · intro e member
        rcases List.mem_cons.mp member with rfl | member
        · exact typed
        · exact token.typed e member
  · exact ⟨by simp [token.spells], token.nonempty, token.typed⟩

theorem read_sound {line : Text} {cut : ExceptionLine} (found : read? line = some cut) :
    ∃ rest, Token line cut.lead cut.exceptionType rest ∧
      cut.message = rest.dropWhile Text.isIndent := by
  induction line using read?.induct generalizing cut with
  | case1 => simp [read?] at found
  | case2 => simp [read?] at found
  | case3 c d rest here =>
      simp only [read?, here, if_true, Option.some.injEq] at found
      subst found
      simp only [Bool.and_eq_true, beq_iff_eq] at here
      obtain ⟨typed, rfl⟩ := here
      exact ⟨rest, ⟨rfl, by simp, by simpa using typed⟩, rfl⟩
  | case4 c d rest notHere ih =>
      simp only [read?, if_neg notHere, Option.map_eq_some_iff] at found
      obtain ⟨later, laterFound, rfl⟩ := found
      obtain ⟨after, token, message⟩ := ih laterFound
      refine ⟨after, push_sound token, ?_⟩
      rw [← message]
      unfold push
      split <;> rfl

/-- No token that a colon follows begins before the one that is read. -/
theorem read_of_token {line lead token rest : Text} (here : Token line lead token rest) :
    ∃ cut, read? line = some cut ∧ cut.lead.length ≤ lead.length := by
  induction line using read?.induct generalizing lead token with
  | case1 => simpa using here.spells
  | case2 c =>
      have tooLong := congrArg List.length here.spells
      have nonempty := List.length_pos_iff.mpr here.nonempty
      simp only [List.length_cons, List.length_nil, List.length_append] at tooLong
      omega
  | case3 c d after now => exact ⟨_, by rw [read?, if_pos now], Nat.zero_le _⟩
  | case4 c d after notNow ih =>
      rw [read?, if_neg notNow]
      cases lead with
      | cons e lead =>
          obtain ⟨rfl, tails⟩ := List.cons.inj here.spells
          obtain ⟨cut, found, before⟩ := ih ⟨tails, here.nonempty, here.typed⟩
          refine ⟨push c cut, by rw [found]; rfl, ?_⟩
          unfold push
          split
          · next kind => simp_all
          · simpa using before
      | nil =>
          obtain ⟨t, more, rfl⟩ := List.exists_cons_of_ne_nil here.nonempty
          obtain ⟨rfl, tails⟩ := List.cons.inj here.spells
          have typed := here.typed c (by simp)
          cases more with
          | nil =>
              -- the colon behind a token of one character would have been seen here
              obtain ⟨rfl, -⟩ := List.cons.inj tails
              exact absurd (by simpa using typed) notNow
          | cons u more =>
              have later : Token (d :: after) [] (u :: more) rest :=
                ⟨tails, by simp, fun e member => here.typed e (List.mem_cons_of_mem _ member)⟩
              obtain ⟨cut, found, before⟩ := ih later
              have leadEmpty : cut.lead = [] := by simpa using before
              refine ⟨push c cut, by rw [found]; rfl, ?_⟩
              simp [push, leadEmpty, typed]

theorem token_unique {line lead token token' rest rest' : Text} (here : Token line lead token rest)
    (there : Token line lead token' rest') : token = token' ∧ rest = rest' := by
  have ended : ∀ {after : Text}, ∀ c ∈ (':' :: after).head?, isTypeChar c = false := by
    intro after c first
    rw [← Option.some.inj first]
    exact colon_is_no_type_char
  have same : token ++ ':' :: rest = token' ++ ':' :: rest' :=
    List.append_cancel_left (here.spells.symm.trans there.spells)
  have tokens := congrArg (List.takeWhile isTypeChar) same
  rw [Text.take_run here.typed ended, Text.take_run there.typed ended] at tokens
  have rests := congrArg (List.dropWhile isTypeChar) same
  rw [Text.drop_run here.typed ended, Text.drop_run there.typed ended] at rests
  exact ⟨tokens, (List.cons.inj rests).2⟩

theorem read_leading_token {line token rest : Text} (here : Token line [] token rest) :
    read? line = some ⟨[], token, rest.dropWhile Text.isIndent⟩ := by
  obtain ⟨cut, found, before⟩ := read_of_token here
  obtain ⟨after, there, message⟩ := read_sound found
  have leadEmpty : cut.lead = [] := by simpa using before
  rw [leadEmpty] at there
  obtain ⟨types, rests⟩ := token_unique here there
  rw [found, types, rests, ← message, ← leadEmpty]

theorem read_first_token {line : Text} {cut : ExceptionLine} (found : read? line = some cut) :
    ∃ rest, FirstToken line cut.lead cut.exceptionType rest ∧
      cut.message = rest.dropWhile Text.isIndent := by
  obtain ⟨rest, token, message⟩ := read_sound found
  have first : ∀ lead' token' rest', Token line lead' token' rest' →
      cut.lead.length ≤ lead'.length := by
    intro lead' token' rest' other
    obtain ⟨cut', found', before⟩ := read_of_token other
    rw [found] at found'
    rw [Option.some.inj found']
    exact before
  refine ⟨rest, ⟨token, ?_, first⟩, message⟩
  intro c last
  by_contra typed
  -- the token could begin one character earlier
  obtain ⟨shorter, same⟩ : ∃ shorter, cut.lead = shorter ++ [c] :=
    List.getLast?_eq_some_iff.mp last
  have earlier : Token line shorter (c :: cut.exceptionType) rest := by
    refine ⟨by simp [token.spells, same], by simp, ?_⟩
    intro d member
    rcases List.mem_cons.mp member with rfl | member
    · simpa using typed
    · exact token.typed d member
  have before := first _ _ _ earlier
  rw [same, List.length_append, List.length_singleton] at before
  omega

end ExceptionLine

namespace Frame

/-- A way to cut a text into a locator that begins a line, a snippet and an
exception line that ends the text. -/
structure Decomposition (text : Text) where
  before : Text
  indent : Text
  locator : Locator
  snippet : Text
  exceptionType : Text
  gap : Text
  message : Text
  spells : text = before ++ (indent ++ (locator.written ++
    (snippet ++ (exceptionType ++ ':' :: (gap ++ message)))))
  whole : Text.WholeLines before
  indented : ∀ c ∈ indent, Text.isIndent c = true
  wellFormed : locator.WellFormed
  nonempty : exceptionType ≠ []
  typed : ∀ c ∈ exceptionType, ExceptionLine.isTypeChar c = true
  spaced : ∀ c ∈ gap, Text.isIndent c = true
  oneLine : '\n' ∉ message

namespace Decomposition

variable {text : Text}

def frame (parts : Decomposition text) : Frame where
  fileName := parts.locator.fileName
  lineNumber := Text.numeralValue parts.locator.line
  scope := parts.locator.scope
  snippet := parts.snippet
  exceptionType := parts.exceptionType
  message := parts.message

/-- Its locator begins as far behind as any. -/
def IsLast (parts : Decomposition text) : Prop :=
  ∀ other : Decomposition text, other.before.length ≤ parts.before.length

/-- The longest text before the locator, then the shortest snippet, then the
widest gap. -/
structure Preferred (parts : Decomposition text) : Prop where
  last : parts.IsLast
  shortest : ∀ other : Decomposition text, other.before = parts.before →
    parts.snippet.length ≤ other.snippet.length
  widest : ∀ other : Decomposition text, other.before = parts.before →
    other.snippet = parts.snippet → other.gap.length ≤ parts.gap.length

def rest (parts : Decomposition text) : Text :=
  parts.snippet ++ (parts.exceptionType ++ ':' :: (parts.gap ++ parts.message))

theorem read_locator (parts : Decomposition text) :
    Locator.read? (parts.indent ++ (parts.locator.written ++ parts.rest)) =
      some (parts.locator, parts.rest) :=
  Locator.read_written parts.indented parts.wellFormed parts.rest

theorem exists_last (parts : Decomposition text) : ∃ found, Locator.last? text = some found := by
  have here := Locator.last_of_read (Option.isSome_of_eq_some parts.read_locator)
  obtain ⟨found, last⟩ := Option.isSome_iff_exists.mp here
  exact ⟨found, by rw [parts.spells]; exact Locator.last_append parts.whole last⟩

theorem newline_not_mem_ending (parts : Decomposition text) :
    '\n' ∉ Text.lastLine parts.snippet ++
      (parts.exceptionType ++ ':' :: (parts.gap ++ parts.message)) := by
  intro member
  simp only [List.mem_append, List.mem_cons] at member
  rcases member with inLead | inType | colon | inGap | inMessage
  · exact Text.newline_not_mem_last_line parts.snippet inLead
  · have typed := parts.typed _ inType
    rw [ExceptionLine.newline_is_no_type_char] at typed
    exact Bool.false_ne_true typed
  · exact absurd colon (by decide)
  · exact absurd (parts.spaced _ inGap) (by decide)
  · exact parts.oneLine inMessage

theorem rest_split (parts : Decomposition text) :
    parts.rest = Text.exceptLastLine parts.snippet ++ (Text.lastLine parts.snippet ++
      (parts.exceptionType ++ ':' :: (parts.gap ++ parts.message))) := by
  rw [← List.append_assoc, ← Text.last_line_split, rest]

theorem except_last_line_rest (parts : Decomposition text) :
    Text.exceptLastLine parts.rest = Text.exceptLastLine parts.snippet := by
  rw [rest_split]
  exact Text.except_last_line_eq (Text.whole_lines_except_last_line parts.snippet)
    parts.newline_not_mem_ending

/-- The exception type and the message stand on the last line of the text. -/
theorem token (parts : Decomposition text) :
    ExceptionLine.Token (Text.lastLine text) (Text.lastLine parts.snippet) parts.exceptionType
      (parts.gap ++ parts.message) := by
  have ending : Text.lastLine parts.rest = Text.lastLine parts.snippet ++
      (parts.exceptionType ++ ':' :: (parts.gap ++ parts.message)) := by
    rw [rest_split]
    exact Text.last_line_eq (Text.whole_lines_except_last_line parts.snippet)
      parts.newline_not_mem_ending
  have located : text = (parts.before ++ parts.indent ++ parts.locator.written) ++ parts.rest := by
    simpa [rest] using parts.spells
  have lastLines : Text.lastLine text = Text.lastLine parts.rest :=
    (congrArg Text.lastLine located).trans
      (Text.last_line_append (Locator.whole_lines_written _ _) parts.rest)
  exact ⟨lastLines.trans ending, parts.nonempty, parts.typed⟩

theorem locator_unique {parts other : Decomposition text} (same : other.before = parts.before) :
    other.locator = parts.locator ∧ other.rest = parts.rest := by
  have texts := other.spells.symm.trans parts.spells
  rw [same] at texts
  have found := other.read_locator
  rw [rest, List.append_cancel_left texts] at found
  have pairs := Option.some.inj (found.symm.trans parts.read_locator)
  exact ⟨congrArg Prod.fst pairs, congrArg Prod.snd pairs⟩

theorem before_unique {parts other : Decomposition text} (last : parts.IsLast)
    (otherLast : other.IsLast) : other.before = parts.before := by
  have lengths := Nat.le_antisymm (last other) (otherLast parts)
  exact (List.append_inj (other.spells.symm.trans parts.spells) lengths).1

theorem preferred_unique {parts other : Decomposition text} (preferred : parts.Preferred)
    (otherPreferred : other.Preferred) : other.frame = parts.frame := by
  have befores := before_unique preferred.last otherPreferred.last
  obtain ⟨locators, rests⟩ := locator_unique befores
  have snippetLengths := Nat.le_antisymm (otherPreferred.shortest parts befores.symm)
    (preferred.shortest other befores)
  obtain ⟨snippets, endings⟩ := List.append_inj rests snippetLengths
  have gapLengths := Nat.le_antisymm (preferred.widest other befores snippets)
    (otherPreferred.widest parts befores.symm snippets.symm)
  have otherToken := other.token
  rw [snippets] at otherToken
  obtain ⟨types, tails⟩ := ExceptionLine.token_unique otherToken parts.token
  obtain ⟨-, messages⟩ := List.append_inj tails gapLengths
  rw [frame, frame, locators, snippets, types, messages]

theorem preferred_of_first_token {parts : Decomposition text} {tail : Text} (last : parts.IsLast)
    (first : ExceptionLine.FirstToken (Text.lastLine text) (Text.lastLine parts.snippet)
      parts.exceptionType tail)
    (gap : parts.gap = tail.takeWhile Text.isIndent) : parts.Preferred := by
  refine ⟨last, ?_, ?_⟩
  · intro other same
    have lines : Text.exceptLastLine other.snippet = Text.exceptLastLine parts.snippet := by
      rw [← other.except_last_line_rest, (locator_unique same).2, except_last_line_rest]
    have leads := first.first _ _ _ other.token
    have length := congrArg List.length (Text.last_line_split parts.snippet)
    have otherLength := congrArg List.length (Text.last_line_split other.snippet)
    rw [lines] at otherLength
    simp only [List.length_append] at length otherLength
    omega
  · intro other same snippets
    have token := other.token
    rw [snippets] at token
    have tails := (ExceptionLine.token_unique token first.toToken).2
    rw [gap, ← tails, List.takeWhile_append_of_pos other.spaced, List.length_append]
    omega

end Decomposition

section Reading

variable {text rest : Text} {cut : ExceptionLine} {locator : Locator}

theorem read_eq (ending : ExceptionLine.read? (Text.lastLine text) = some cut)
    (last : Locator.last? text = some (locator, rest)) :
    read? text =
      if Text.numeralValue locator.line ≤ maxLineNumber then
        some ⟨locator.fileName, Text.numeralValue locator.line, locator.scope,
          Text.exceptLastLine rest ++ cut.lead, cut.exceptionType, cut.message⟩
      else none := by
  simp [read?, ending, last]

/-- Whole lines in front of a text with a locator leave its frame as it is. -/
theorem read_append {lines : Text} (whole : Text.WholeLines lines)
    (last : Locator.last? text = some (locator, rest)) : read? (lines ++ text) = read? text := by
  rw [read?, read?, Text.last_line_append whole, Locator.last_append whole last, last]

/-- The last locator and the exception line make the preferred decomposition. -/
theorem preferred_of_read (ending : ExceptionLine.read? (Text.lastLine text) = some cut)
    (last : Locator.last? text = some (locator, rest)) :
    ∃ parts : Decomposition text, parts.Preferred ∧ parts.locator = locator ∧
      parts.frame = ⟨locator.fileName, Text.numeralValue locator.line, locator.scope,
        Text.exceptLastLine rest ++ cut.lead, cut.exceptionType, cut.message⟩ := by
  obtain ⟨before, after, split, whole, here, farthest⟩ := Locator.last_sound last
  obtain ⟨wellFormed, indent, indented, spelled⟩ := Locator.read_sound here
  obtain ⟨tail, token, message⟩ := ExceptionLine.read_first_token ending
  have located : text = (before ++ indent ++ locator.written) ++ rest := by
    rw [split, spelled]
    simp
  have lastLines : Text.lastLine text = Text.lastLine rest := by
    rw [located]
    exact Text.last_line_append (Locator.whole_lines_written _ _) rest
  have noNewline : '\n' ∉ Text.lastLine text := Text.newline_not_mem_last_line text
  rw [token.spells] at noNewline
  have tails : tail = tail.takeWhile Text.isIndent ++ cut.message := by
    rw [message, List.takeWhile_append_dropWhile]
  have restSplit : rest = Text.exceptLastLine rest ++ cut.lead ++
      (cut.exceptionType ++ ':' :: (tail.takeWhile Text.isIndent ++ cut.message)) := by
    rw [← tails, List.append_assoc, ← token.spells, lastLines, ← Text.last_line_split]
  let parts : Decomposition text := {
    before := before
    indent := indent
    locator := locator
    snippet := Text.exceptLastLine rest ++ cut.lead
    exceptionType := cut.exceptionType
    gap := tail.takeWhile Text.isIndent
    message := cut.message
    spells := by
      rw [← restSplit, ← spelled]
      exact split
    whole := whole
    indented := indented
    wellFormed := wellFormed
    nonempty := token.nonempty
    typed := token.typed
    spaced := fun _ => List.mem_takeWhile_imp
    oneLine := by
      intro member
      apply noNewline
      rw [tails]
      simp [member] }
  have lead : Text.lastLine parts.snippet = cut.lead :=
    Text.last_line_eq (Text.whole_lines_except_last_line rest)
      (fun member => noNewline (List.mem_append_left _ member))
  have isLast : parts.IsLast := fun other =>
    farthest other.before _ other.spells other.whole (Option.isSome_of_eq_some other.read_locator)
  refine ⟨parts, Decomposition.preferred_of_first_token isLast ?_ rfl, rfl, rfl⟩
  rw [lead]
  exact token

theorem read_of_decomposition (parts : Decomposition text) :
    ∃ best : Decomposition text, best.Preferred ∧
      read? text = if Text.numeralValue best.locator.line ≤ maxLineNumber then some best.frame
        else none := by
  obtain ⟨cut, ending, -⟩ := ExceptionLine.read_of_token parts.token
  obtain ⟨⟨locator, rest⟩, last⟩ := parts.exists_last
  obtain ⟨best, preferred, sameLocator, sameFrame⟩ := preferred_of_read ending last
  exact ⟨best, preferred, by rw [read_eq ending last, sameLocator, sameFrame]⟩

theorem read_of_no_decomposition (empty : IsEmpty (Decomposition text)) : read? text = none := by
  cases ending : ExceptionLine.read? (Text.lastLine text) with
  | none => simp [read?, ending]
  | some cut =>
      cases last : Locator.last? text with
      | none => simp [read?, ending, last]
      | some found =>
          obtain ⟨parts, -⟩ := preferred_of_read ending last
          exact empty.elim parts

theorem read_eq_none_iff : read? text = none ↔
    IsEmpty (Decomposition text) ∨
      ∃ parts : Decomposition text, parts.IsLast ∧
        maxLineNumber < Text.numeralValue parts.locator.line := by
  constructor
  · intro absent
    rcases isEmpty_or_nonempty (Decomposition text) with empty | ⟨⟨parts⟩⟩
    · exact Or.inl empty
    · obtain ⟨best, preferred, result⟩ := read_of_decomposition parts
      refine Or.inr ⟨best, preferred.last, ?_⟩
      by_contra fits
      rw [result, if_pos (Nat.le_of_not_lt fits)] at absent
      simp at absent
  · rintro (empty | ⟨parts, last, large⟩)
    · exact read_of_no_decomposition empty
    · obtain ⟨best, preferred, result⟩ := read_of_decomposition parts
      have same := Decomposition.before_unique preferred.last last
      rw [(Decomposition.locator_unique same).1] at large
      rw [result, if_neg (Nat.not_le_of_lt large)]

theorem read_eq_some {frame : Frame} (found : read? text = some frame) :
    ∃ best : Decomposition text, best.Preferred ∧ best.frame = frame := by
  rcases isEmpty_or_nonempty (Decomposition text) with empty | ⟨⟨parts⟩⟩
  · rw [read_of_no_decomposition empty] at found
    simp at found
  · obtain ⟨best, preferred, result⟩ := read_of_decomposition parts
    rw [result] at found
    split at found
    · exact ⟨best, preferred, Option.some.inj found⟩
    · simp at found

/-- The last line, cut at its first token, ends the snippet and holds the type
and the message. -/
theorem read_ending {frame : Frame} (found : read? text = some frame) :
    ∃ lines lead rest, Text.WholeLines lines ∧ frame.snippet = lines ++ lead ∧
      ExceptionLine.FirstToken (Text.lastLine text) lead frame.exceptionType rest ∧
      frame.message = rest.dropWhile Text.isIndent := by
  cases ending : ExceptionLine.read? (Text.lastLine text) with
  | none => simp [read?, ending] at found
  | some cut =>
      cases last : Locator.last? text with
      | none => simp [read?, ending, last] at found
      | some pair =>
          rw [read_eq ending last] at found
          split at found
          · cases Option.some.inj found
            obtain ⟨rest, token, message⟩ := ExceptionLine.read_first_token ending
            exact ⟨Text.exceptLastLine pair.2, cut.lead, rest,
              Text.whole_lines_except_last_line pair.2, rfl, token, message⟩
          · simp at found

end Reading

end Frame

namespace Traceback

/-- A traceback has the frame of the preferred decomposition of its text, if
there is a decomposition and the number in its last locator fits. -/
theorem frame_follows_grammar (raw : Text) :
    ((read raw).frame = none ↔
      IsEmpty (Frame.Decomposition (read raw).text) ∨
        ∃ parts : Frame.Decomposition (read raw).text, parts.IsLast ∧
          4294967295 < Text.numeralValue parts.locator.line) ∧
    ∀ frame, (read raw).frame = some frame →
      (∃ parts : Frame.Decomposition (read raw).text, parts.Preferred) ∧
      (∀ parts : Frame.Decomposition (read raw).text, parts.Preferred → frame = parts.frame) ∧
      ∃ lines lead rest, Text.WholeLines lines ∧ frame.snippet = lines ++ lead ∧
        ExceptionLine.FirstToken (Text.lastLine (read raw).text) lead frame.exceptionType rest ∧
        frame.message = rest.dropWhile Text.isIndent := by
  refine ⟨Frame.read_eq_none_iff, ?_⟩
  intro frame found
  obtain ⟨best, preferred, same⟩ := Frame.read_eq_some found
  refine ⟨⟨best, preferred⟩, ?_, Frame.read_ending found⟩
  intro parts other
  rw [← same]
  exact Frame.Decomposition.preferred_unique other preferred

-- The last locator is too large, and the one before it is not tried.
example : (read "File \"a\", line 1\nFile \"b\", line 4294967296\nE: m".toList).frame = none := by
  decide +kernel

end Traceback

end TraceGloss
