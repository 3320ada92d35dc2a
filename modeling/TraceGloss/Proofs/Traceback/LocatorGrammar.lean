import TraceGloss.Proofs.Text.WholeLines
import TraceGloss.Traceback.Locator

/-!
# The grammar of locators

A locator is written in one way, up to its indentation, and reading accepts
exactly what is written: each part is read back with what follows it, and what
was read spells the text. The last locator of a text is the one that begins
farthest behind, among all places where a line begins.
-/

namespace TraceGloss.Locator

set_option autoImplicit false

def scopeText : Option Text → Text
  | none => []
  | some scope => ", in ".toList ++ scope

/-- A locator line without its indentation and its newline. -/
def shown (locator : Locator) : Text :=
  "File \"".toList ++ (locator.fileName ++ ("\", line ".toList ++ (locator.line ++
    scopeText locator.scope)))

def written (locator : Locator) : Text :=
  locator.shown ++ ['\n']

-- Unfolding a definition that holds a literal makes Lean evaluate the literal,
-- so these two are rewritten by their equations.
theorem scope_text_some (scope : Text) : scopeText (some scope) = ", in ".toList ++ scope :=
  rfl

theorem written_eq (locator : Locator) (rest : Text) : locator.written ++ rest =
    "File \"".toList ++ (locator.fileName ++ ("\", line ".toList ++ (locator.line ++
      (scopeText locator.scope ++ '\n' :: rest)))) := by
  have split : locator.written ++ rest = ("File \"".toList ++ (locator.fileName ++
      ("\", line ".toList ++ (locator.line ++ scopeText locator.scope))) ++ ['\n']) ++ rest := rfl
  rw [split]
  simp only [List.append_assoc, List.singleton_append]

/-- A name that a locator can show as its scope. -/
def IsScope (name : Text) : Prop :=
  name ≠ [] ∧ ∀ c ∈ name, Text.isBlank c = false

instance (name : Text) : Decidable (IsScope name) :=
  inferInstanceAs (Decidable (name ≠ [] ∧ ∀ c ∈ name, Text.isBlank c = false))

/-- The file name may hold newlines; the digits may begin with zeros. -/
structure WellFormed (locator : Locator) : Prop where
  named : locator.fileName ≠ []
  unquoted : '"' ∉ locator.fileName
  numbered : locator.line ≠ []
  digits : ∀ c ∈ locator.line, Text.isAsciiDigit c = true
  inScope : ∀ name ∈ locator.scope, IsScope name

theorem whole_lines_written (front : Text) (locator : Locator) :
    Text.WholeLines (front ++ locator.written) := by
  rw [written, ← List.append_assoc]
  exact Text.whole_lines_newline (front ++ locator.shown)

/-- Only the file name can make a locator longer than a line. -/
theorem newline_not_mem_shown {locator : Locator} (wellFormed : locator.WellFormed)
    (nameOnLine : '\n' ∉ locator.fileName) : '\n' ∉ locator.shown := by
  have digits : '\n' ∉ locator.line := by
    intro member
    exact absurd (wellFormed.digits _ member) (by decide)
  have scope : '\n' ∉ scopeText locator.scope := by
    intro member
    cases shown : locator.scope with
    | none => simp [shown, scopeText] at member
    | some name =>
        rw [shown, scope_text_some, List.mem_append] at member
        rcases member with inWord | inName
        · exact absurd inWord (by decide)
        · exact absurd ((wellFormed.inScope name shown).2 _ inName) (by decide)
  have parts : locator.shown = "File \"".toList ++ (locator.fileName ++ ("\", line ".toList ++
      (locator.line ++ scopeText locator.scope))) := rfl
  intro member
  rw [parts] at member
  simp only [List.mem_append] at member
  rcases member with inFile | inName | inLine | inDigits | inScope
  · exact absurd inFile (by decide)
  · exact nameOnLine inName
  · exact absurd inLine (by decide)
  · exact digits inDigits
  · exact scope inScope

theorem opening_on_first_line {indent : Text} (indented : ∀ c ∈ indent, Text.isIndent c = true)
    (locator : Locator) (rest : Text) :
    "File \"".toList <+:
      ((indent ++ (locator.written ++ rest)).takeWhile (· != '\n')).dropWhile Text.isIndent := by
  have indentOnLine : ∀ c ∈ indent, (c != '\n') = true := by
    intro c member
    have different : c ≠ '\n' := by
      rintro rfl
      exact absurd (indented _ member) (by decide)
    simpa using different
  have openingOnLine : ∀ c ∈ "File \"".toList, (c != '\n') = true := by
    decide
  rw [written_eq, List.takeWhile_append_of_pos indentOnLine,
    List.takeWhile_append_of_pos openingOnLine, List.dropWhile_append_of_pos indented]
  exact List.prefix_append _ _

section Parts

variable {text rest : Text}

theorem read_end_written {scope : Option Text} (inScope : ∀ name ∈ scope, IsScope name)
    (rest : Text) :
    readEnd (scopeText scope ++ '\n' :: rest) = some (scope, rest) := by
  cases scope with
  | none => rfl
  | some name =>
      obtain ⟨nonempty, solid⟩ := inScope name rfl
      have within : ∀ c ∈ name, (!Text.isBlank c) = true := by
        intro c member
        simp [solid c member]
      have ended : ∀ c ∈ ('\n' :: rest).head?, (!Text.isBlank c) = false := by
        intro c first
        rw [← Option.some.inj first]
        decide
      obtain ⟨c, more, rfl⟩ := List.exists_cons_of_ne_nil nonempty
      have after : Text.after? ", in ".toList (scopeText (some (c :: more)) ++ '\n' :: rest) =
          some (c :: more ++ '\n' :: rest) := by
        rw [scope_text_some, List.append_assoc, Text.after_append]
      unfold readEnd
      rw [after]
      dsimp only
      rw [Text.take_run within ended, Text.drop_run within ended]
      rfl

theorem digits_end_before_scope (scope : Option Text) (rest : Text) :
    ∀ c ∈ (scopeText scope ++ '\n' :: rest).head?, Text.isAsciiDigit c = false := by
  intro c first
  cases scope with
  | none => rw [← Option.some.inj first]; rfl
  | some name => rw [← Option.some.inj first]; rfl

theorem read_end_sound {scope : Option Text} (found : readEnd text = some (scope, rest)) :
    (∀ name ∈ scope, IsScope name) ∧ text = scopeText scope ++ '\n' :: rest := by
  unfold readEnd at found
  split at found
  · split at found
    · simp only [Option.some.injEq, Prod.mk.injEq] at found
      obtain ⟨rfl, rfl⟩ := found
      exact ⟨by simp, rfl⟩
    · simp at found
  · next following after =>
      split at found
      · next c name newline taken dropped =>
          simp only [Option.some.injEq, Prod.mk.injEq] at found
          obtain ⟨rfl, rfl⟩ := found
          have joined := List.takeWhile_append_dropWhile (p := (!Text.isBlank ·)) (l := following)
          rw [taken, dropped] at joined
          constructor
          · intro whole same
            rw [← Option.some.inj same]
            refine ⟨by simp, ?_⟩
            intro d member
            rw [← taken] at member
            simpa using List.mem_takeWhile_imp member
          · rw [Text.after_eq_some_iff.mp after, ← joined, scope_text_some, List.append_assoc]
      · simp at found

theorem read_line_written {digits : Text} (numbered : digits ≠ [])
    (within : ∀ c ∈ digits, Text.isAsciiDigit c = true)
    (ended : ∀ c ∈ rest.head?, Text.isAsciiDigit c = false) :
    readLine ("\", line ".toList ++ (digits ++ rest)) = some (digits, rest) := by
  rw [readLine, Text.after_append]
  obtain ⟨c, more, rfl⟩ := List.exists_cons_of_ne_nil numbered
  dsimp only
  rw [Text.take_run within ended, Text.drop_run within ended]

theorem read_line_sound {digits : Text} (found : readLine text = some (digits, rest)) :
    digits ≠ [] ∧ (∀ c ∈ digits, Text.isAsciiDigit c = true) ∧
      text = "\", line ".toList ++ (digits ++ rest) := by
  unfold readLine at found
  split at found
  · simp at found
  · next numbered after =>
      split at found
      · simp at found
      · next nonempty =>
          simp only [Option.some.injEq, Prod.mk.injEq] at found
          obtain ⟨rfl, rfl⟩ := found
          refine ⟨nonempty, fun _ => List.mem_takeWhile_imp, ?_⟩
          rw [Text.after_eq_some_iff.mp after, List.takeWhile_append_dropWhile]

theorem read_name_written {indent name : Text} (indented : ∀ c ∈ indent, Text.isIndent c = true)
    (named : name ≠ []) (unquoted : '"' ∉ name)
    (ended : ∀ c ∈ rest.head?, (c != '"') = false) :
    readName (indent ++ ("File \"".toList ++ (name ++ rest))) = some (name, rest) := by
  have within : ∀ c ∈ name, (c != '"') = true := by
    intro c member
    have different : c ≠ '"' := fun same => unquoted (same ▸ member)
    simpa using different
  have file : ("File \"".toList ++ (name ++ rest)).dropWhile Text.isIndent =
      "File \"".toList ++ (name ++ rest) := rfl
  obtain ⟨c, more, rfl⟩ := List.exists_cons_of_ne_nil named
  rw [readName, List.dropWhile_append_of_pos indented, file, Text.after_append]
  dsimp only
  rw [Text.take_run within ended, Text.drop_run within ended]

theorem read_name_sound {name : Text} (found : readName text = some (name, rest)) :
    name ≠ [] ∧ '"' ∉ name ∧ ∃ indent, (∀ c ∈ indent, Text.isIndent c = true) ∧
      text = indent ++ ("File \"".toList ++ (name ++ rest)) := by
  unfold readName at found
  split at found
  · simp at found
  · next following after =>
      split at found
      · simp at found
      · next nonempty =>
          simp only [Option.some.injEq, Prod.mk.injEq] at found
          obtain ⟨rfl, rfl⟩ := found
          refine ⟨nonempty, ?_, text.takeWhile Text.isIndent, fun _ => List.mem_takeWhile_imp, ?_⟩
          · intro quote
            have different := List.mem_takeWhile_imp quote
            simp at different
          · rw [List.takeWhile_append_dropWhile, ← Text.after_eq_some_iff.mp after,
              List.takeWhile_append_dropWhile]

end Parts

theorem read_written {indent : Text} {locator : Locator}
    (indented : ∀ c ∈ indent, Text.isIndent c = true) (wellFormed : locator.WellFormed)
    (rest : Text) : read? (indent ++ (locator.written ++ rest)) = some (locator, rest) := by
  have quoted : ∀ c ∈ ("\", line ".toList ++ (locator.line ++
      (scopeText locator.scope ++ '\n' :: rest))).head?, (c != '"') = false := by
    intro c first
    rw [← Option.some.inj first]
    rfl
  have name := read_name_written indented wellFormed.named wellFormed.unquoted quoted
  have line := read_line_written wellFormed.numbered wellFormed.digits
    (digits_end_before_scope locator.scope rest)
  have ending := read_end_written wellFormed.inScope rest
  rw [written_eq]
  simp only [read?, name, line, ending, Option.bind_eq_bind, Option.bind_some, Option.pure_def]

theorem read_sound {text rest : Text} {locator : Locator}
    (found : read? text = some (locator, rest)) :
    locator.WellFormed ∧ ∃ indent, (∀ c ∈ indent, Text.isIndent c = true) ∧
      text = indent ++ (locator.written ++ rest) := by
  simp only [read?, Option.bind_eq_bind, Option.bind_eq_some_iff, Option.pure_def,
    Option.some.injEq, Prod.mk.injEq, Prod.exists] at found
  obtain ⟨name, named, nameFound, digits, numbered, lineFound, scope, rest', endFound, rfl, rfl⟩ :=
    found
  obtain ⟨nameNonempty, unquoted, indent, indented, textSplit⟩ := read_name_sound nameFound
  obtain ⟨digitsNonempty, digitsWithin, namedSplit⟩ := read_line_sound lineFound
  obtain ⟨inScope, numberedSplit⟩ := read_end_sound endFound
  refine ⟨⟨nameNonempty, unquoted, digitsNonempty, digitsWithin, inScope⟩, indent, indented, ?_⟩
  rw [textSplit, namedSplit, numberedSplit, written_eq]

section Last

variable {lineStart : Bool} {before after : Text} {found : Locator × Text}

/-- What stands in front of a locator does not matter to the last one. -/
theorem last_from_append
    (later : lastFrom (Text.endsIn (· == '\n') lineStart before) after = some found) :
    lastFrom lineStart (before ++ after) = some found := by
  induction before generalizing lineStart with
  | nil => exact later
  | cons c before ih =>
      rw [List.cons_append, lastFrom]
      rw [Text.endsIn] at later
      rw [ih later]

theorem last_from_of_read (start : lineStart = true) (here : (read? after).isSome) :
    (lastFrom lineStart after).isSome := by
  cases after with
  | nil => simp [read?, readName, Text.after?] at here
  | cons c rest =>
      rw [lastFrom]
      cases lastFrom (c == '\n') rest with
      | none => simpa [start] using here
      | some later => rfl

theorem last_from_sound {text : Text} (result : lastFrom lineStart text = some found) :
    ∃ before after, text = before ++ after ∧
      Text.endsIn (· == '\n') lineStart before = true ∧ read? after = some found ∧
      ∀ other rest, text = other ++ rest → Text.endsIn (· == '\n') lineStart other = true →
        (read? rest).isSome → other.length ≤ before.length := by
  induction text generalizing lineStart with
  | nil => simp [lastFrom] at result
  | cons c text ih =>
      rw [lastFrom] at result
      cases later : lastFrom (c == '\n') text with
      | some behind =>
          rw [later] at result
          obtain ⟨before, after, split, start, here, last⟩ := ih (later.trans result)
          refine ⟨c :: before, after, by rw [split, List.cons_append], start, here, ?_⟩
          intro other rest same begins readable
          cases other with
          | nil => simp
          | cons d other =>
              obtain ⟨rfl, tails⟩ := List.cons.inj same
              exact Nat.succ_le_succ (last other rest tails begins readable)
      | none =>
          rw [later] at result
          have start : lineStart = true := by
            by_contra inside
            simp [inside] at result
          refine ⟨[], c :: text, rfl, start, by simpa [start] using result, ?_⟩
          intro other rest same begins readable
          cases other with
          | nil => exact Nat.le_refl _
          | cons d other =>
              -- a locator behind this place would have been found first
              obtain ⟨rfl, tails⟩ := List.cons.inj same
              rw [Text.endsIn] at begins
              obtain ⟨behind, isLast⟩ :=
                Option.isSome_iff_exists.mp (last_from_of_read begins readable)
              have found : lastFrom (c == '\n') text = some behind := by
                rw [tails]
                exact last_from_append isLast
              rw [found] at later
              simp at later

end Last

theorem last_append {lines text : Text} (whole : Text.WholeLines lines) {found : Locator × Text}
    (last : last? text = some found) : last? (lines ++ text) = some found := by
  apply last_from_append
  rw [Text.whole_lines_iff_ends_in.mp whole]
  exact last

theorem last_of_read {text : Text} (here : (read? text).isSome) : (last? text).isSome :=
  last_from_of_read rfl here

theorem last_sound {text : Text} {found : Locator × Text} (last : last? text = some found) :
    ∃ before after, text = before ++ after ∧ Text.WholeLines before ∧ read? after = some found ∧
      ∀ other rest, text = other ++ rest → Text.WholeLines other → (read? rest).isSome →
        other.length ≤ before.length := by
  simpa only [Text.whole_lines_iff_ends_in] using last_from_sound last

/-- A locator on one line is the last one when no locator begins a line behind
it. -/
theorem last_of_quiet {indent rest : Text} {locator : Locator}
    (indented : ∀ c ∈ indent, Text.isIndent c = true) (wellFormed : locator.WellFormed)
    (oneLine : '\n' ∉ indent ++ locator.shown)
    (quiet : ∀ lines after, rest = lines ++ after → Text.WholeLines lines → read? after = none) :
    last? (indent ++ (locator.written ++ rest)) = some (locator, rest) := by
  have here := read_written indented wellFormed rest
  obtain ⟨found, last⟩ :=
    Option.isSome_iff_exists.mp (last_of_read (Option.isSome_of_eq_some here))
  obtain ⟨before, after, split, whole, there, -⟩ := last_sound last
  by_cases empty : before = []
  · rw [empty, List.nil_append] at split
    rw [← split, here] at there
    rw [last, ← there]
  · have lined : (indent ++ locator.shown) ++ '\n' :: rest = before ++ after := by
      rw [← split, written]
      simp only [List.append_assoc, List.singleton_append]
    obtain ⟨more, -, restSplit, moreWhole⟩ :=
      Text.whole_lines_past_newline lined oneLine whole empty
    rw [quiet more after restSplit moreWhole] at there
    simp at there

end TraceGloss.Locator
