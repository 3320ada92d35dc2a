import TraceGloss.Presenter
import TraceGloss.Proofs.Text.Places
import TraceGloss.Proofs.Text.Runs

/-!
# Failures that differ are shown differently

A report names the type of an exception and the place of a failure in sentences
around the names as they are. The name of a type stands behind the first parenthesis
of its label, since no Japanese name has one. In the sentence about the place, the
number of the line stands between the last two blanks, and what stands in front of
the number tells which of the three labels the file has. So each sentence can be read
back, whatever the names look like.
-/

namespace TraceGloss

set_option autoImplicit false

open Text

namespace Label

/-- The Japanese name of an exception type, or the general one. -/
def exceptionName (exceptionType : Text) : Text :=
  (exceptionNames.lookup exceptionType).getD "エラー".toList

theorem exception_eq (exceptionType : Text) : exception exceptionType =
    "【".toList ++ exceptionName exceptionType ++ "(".toList ++ exceptionType ++ ")】".toList :=
  rfl

theorem no_parenthesis_in_names : ∀ entry ∈ exceptionNames, '(' ∉ entry.2 := by
  decide

theorem no_parenthesis_in_name (exceptionType : Text) : '(' ∉ exceptionName exceptionType := by
  unfold exceptionName
  cases known : exceptionNames.lookup exceptionType with
  | none => decide
  | some name =>
      obtain ⟨before, after, split, -⟩ := List.lookup_eq_some_iff.mp known
      have member : (exceptionType, name) ∈ exceptionNames := by
        rw [split]
        exact List.mem_append_right _ List.mem_cons_self
      exact no_parenthesis_in_names _ member

/-- The label of an exception type tells the type, also when the type itself looks
like a label. -/
theorem exception_injective : Function.Injective exception := by
  intro left right same
  rw [exception_eq, exception_eq] at same
  have named : exceptionName left ++ '(' :: (left ++ ")】".toList) =
      exceptionName right ++ '(' :: (right ++ ")】".toList) := by
    simpa using same
  have behind := (cut_at_first (no_parenthesis_in_name left) (no_parenthesis_in_name right)
    named).2
  exact List.append_cancel_right behind

end Label

/-- The texts of the fragments of one kind. -/
def Report.texts (kind : FragmentKind) (report : Report) : List Text :=
  (report.fragments.filter fun fragment => fragment.kind == kind).map (·.text)

namespace Presenter

variable (presenter : Presenter)

section Places

variable {presenter} {fileName : Text}

theorem file_label_of_live (live : fileName = presenter.liveBuffer) :
    presenter.fileLabel fileName = "プログラム".toList := by
  rw [fileLabel, if_pos live]

/-- What stands in front of a file name other than that of the live buffer. -/
def fileNoun (fileName : Text) : Text :=
  if fileName.head? = some '<' then [] else "ファイル ".toList

theorem file_label_of_other (other : fileName ≠ presenter.liveBuffer) :
    presenter.fileLabel fileName = fileNoun fileName ++ fileName ++ [' '] := by
  rw [fileLabel, if_neg other, fileNoun]
  split_ifs <;> rfl

/-- The noun is told from the first character, which a name without a noun has. -/
theorem noun_and_name_injective :
    Function.Injective fun fileName => fileNoun fileName ++ fileName := by
  intro left right same
  change fileNoun left ++ left = fileNoun right ++ right at same
  have begins (fileName : Text) : (fileNoun fileName ++ fileName).head? = some '<' ↔
      fileName.head? = some '<' := by
    unfold fileNoun
    split
    · next angle => simp [angle]
    · next angle => simp [angle]
  have nouns : fileNoun left = fileNoun right := by
    have angles : left.head? = some '<' ↔ right.head? = some '<' := by
      rw [← begins left, ← begins right, same]
    rw [fileNoun, fileNoun]
    exact if_congr angles rfl rfl
  rw [nouns] at same
  exact List.append_cancel_left same

end Places

/-- The label of the live buffer ends in no blank, and every other label does. -/
theorem file_label_injective : Function.Injective presenter.fileLabel := by
  have apart : ∀ fileName, fileName ≠ presenter.liveBuffer →
      presenter.fileLabel fileName ≠ "プログラム".toList := by
    intro fileName other same
    have ends := congrArg List.getLast? same
    rw [file_label_of_other other, List.getLast?_concat] at ends
    exact absurd ends (by decide)
  intro left right same
  by_cases live : left = presenter.liveBuffer
  · by_cases otherLive : right = presenter.liveBuffer
    · rw [live, otherLive]
    · rw [file_label_of_live live] at same
      exact absurd same.symm (apart right otherLive)
  · by_cases otherLive : right = presenter.liveBuffer
    · rw [file_label_of_live otherLive] at same
      exact absurd same (apart left live)
    · rw [file_label_of_other live, file_label_of_other otherLive] at same
      exact noun_and_name_injective (List.append_cancel_right same)

theorem no_blank_in_numeral (n : Nat) : ' ' ∉ numeral n := by
  intro member
  exact absurd (numeral_digits n ' ' member) (by decide)

/-- The sentence about the place of a failure tells the file and the line. -/
theorem location_injective {frame other : Frame}
    (same : presenter.location frame = presenter.location other) :
    frame.fileName = other.fileName ∧ frame.lineNumber = other.lineNumber := by
  have told : presenter.fileLabel frame.fileName ++ "の ".toList ++ numeral frame.lineNumber =
      presenter.fileLabel other.fileName ++ "の ".toList ++ numeral other.lineNumber :=
    List.append_cancel_right same
  have numbered : (presenter.fileLabel frame.fileName ++ ['の']) ++ ' ' :: numeral frame.lineNumber =
      (presenter.fileLabel other.fileName ++ ['の']) ++ ' ' :: numeral other.lineNumber := by
    simpa using told
  have cut := cut_at_last (no_blank_in_numeral frame.lineNumber)
    (no_blank_in_numeral other.lineNumber) numbered
  have values := congrArg numeralValue cut.2
  rw [numeral_value_numeral, numeral_value_numeral] at values
  exact ⟨presenter.file_label_injective (List.append_cancel_right cut.1), values⟩

section Reports

variable {raw : Text} {buffer : List Text} {frame : Frame}

theorem error_type_texts (found : (Traceback.read raw).frame = some frame) :
    (presenter.present raw buffer).texts .errorType = [Label.exception frame.exceptionType] := by
  rw [present_of_frame found]
  rfl

theorem location_texts (found : (Traceback.read raw).frame = some frame) :
    (presenter.present raw buffer).texts .location = [presenter.location frame] := by
  rw [present_of_frame found]
  rfl

/-- Two reports name the same exception exactly if the failures have the same type,
and the same place exactly if they are in the same file at the same line. Nothing
that a name holds can blur this. -/
theorem different_failures_differ {otherRaw : Text} {other : Frame} (buffer otherBuffer : List Text)
    (found : (Traceback.read raw).frame = some frame)
    (otherFound : (Traceback.read otherRaw).frame = some other) :
    ((presenter.present raw buffer).texts .errorType =
        (presenter.present otherRaw otherBuffer).texts .errorType ↔
      frame.exceptionType = other.exceptionType) ∧
    ((presenter.present raw buffer).texts .location =
        (presenter.present otherRaw otherBuffer).texts .location ↔
      frame.fileName = other.fileName ∧ frame.lineNumber = other.lineNumber) := by
  rw [presenter.error_type_texts found, presenter.error_type_texts otherFound,
    presenter.location_texts found, presenter.location_texts otherFound, List.singleton_inj,
    List.singleton_inj]
  constructor
  · exact Label.exception_injective.eq_iff
  · constructor
    · exact presenter.location_injective
    · intro same
      rw [location, location, same.1, same.2]

/-- A file whose name looks like the beginning of a sentence, and an exception whose
name looks like a label. -/
def sentenceError : Text :=
  "  File \"<a> の 1\", line 2\n文法エラー(SyntaxError): m".toList

def plainError : Text :=
  "  File \"<a>\", line 12\nSyntaxError: m".toList

theorem names_like_sentences_differ :
    (∃ frame other, (Traceback.read sentenceError).frame = some frame ∧
      (Traceback.read plainError).frame = some other) ∧
    (standard.present sentenceError []).texts .errorType ≠
      (standard.present plainError []).texts .errorType ∧
    (standard.present sentenceError []).texts .location ≠
      (standard.present plainError []).texts .location := by
  have found : (Traceback.read sentenceError).frame =
      some ⟨"<a> の 1".toList, 2, none, [], "文法エラー(SyntaxError)".toList, "m".toList⟩ := by
    decide +kernel
  have otherFound : (Traceback.read plainError).frame =
      some ⟨"<a>".toList, 12, none, [], "SyntaxError".toList, "m".toList⟩ := by
    decide +kernel
  obtain ⟨types, places⟩ := standard.different_failures_differ [] [] found otherFound
  refine ⟨⟨_, _, found, otherFound⟩, ?_, ?_⟩
  · intro same
    exact absurd (types.mp same) (by decide)
  · intro same
    exact absurd (places.mp same).2 (by decide)

end Reports

end Presenter

end TraceGloss
