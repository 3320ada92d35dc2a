import TraceGloss.Settings
import TraceGloss.Proofs.Traceback.PreambleCut

/-!
# Frames of the sandbox

The settings name the live buffer, and a presenter goes by that name when it
speaks of a file. Condensing does not: it looks for the one name that the
sandbox gives by itself. So the frames of the sandbox before the first frame of
the live buffer are hidden under that name, and under no other name.
-/

namespace TraceGloss

set_option autoImplicit false

namespace Presenter

/-- What the transcript shows of the raw error. -/
def rawErrors (report : Report) : List Fragment :=
  report.fragments.filter fun fragment => fragment.kind == .rawError

/-- How a frame names its file. -/
def fileNamed (file : Text) : Text := "File \"".toList ++ file ++ "\"".toList

/-- What the sandbox writes before the first frame of the live buffer. -/
structure SandboxFrames (liveBuffer frames : Text) : Prop where
  solid : ∀ c ∈ frames.getLast?, Text.isBlank c = false
  unannounced : ¬ Preamble.banner <:+: frames
  foreign : ¬ fileNamed liveBuffer <:+: frames

/-- A text that begins with a frame of the live buffer, on a line of its own. -/
def BeginsLive (liveBuffer code : Text) : Prop :=
  ∃ digit rest, Text.isAsciiDigit digit = true ∧
    code = "\n  ".toList ++ (fileNamed liveBuffer ++ ", line ".toList ++ digit :: rest)

/-- With every valid settings that name the live buffer so, a report shows the
same raw error whether or not the sandbox wrote frames of its own. -/
def HidesSandbox (liveBuffer : Text) : Prop :=
  ∀ settings : Settings, settings.fault? = none → settings.presenter.liveBuffer = liveBuffer →
    ∀ frames code buffer, SandboxFrames liveBuffer frames → BeginsLive liveBuffer code →
      rawErrors (settings.presenter.present (Preamble.banner ++ (frames ++ code)) buffer) =
        rawErrors (settings.presenter.present (Preamble.banner ++ code) buffer)

theorem file_named_eq (file : Text) :
    fileNamed file = "File ".toList ++ '"' :: (file ++ ['"']) := rfl

theorem raw_errors_of_present (presenter : Presenter) (raw : Text) (buffer : List Text) :
    rawErrors (presenter.present raw buffer) = [⟨.rawError, Traceback.normalize raw⟩] := by
  cases found : (Traceback.read raw).frame with
  | none =>
      rw [present_of_no_frame found]
      rfl
  | some frame =>
      rw [present_of_frame found]
      rfl

section UserFile

variable {frames code : Text}

theorem user_locator_eq : Preamble.userLocator = fileNamed Preamble.userFile ++ ", line ".toList :=
  rfl

theorem user_locator_on_line : '\n' ∉ Preamble.userLocator := by decide

/-- The first user locator behind the frames of the sandbox is the one that the
code begins with. -/
theorem first_user_locator (sandbox : SandboxFrames Preamble.userFile frames) {digit : Char}
    {rest : Text} (isDigit : Text.isAsciiDigit digit = true) :
    Text.First Preamble.IsUserCode
      (frames ++ "\n  ".toList ++ (Preamble.userLocator ++ digit :: rest))
      (frames ++ "\n  ".toList) (Preamble.userLocator ++ digit :: rest) := by
  refine ⟨rfl,
    ⟨⟨' ', by simp, by decide⟩, digit, rest, rfl, Text.ascii_digit_is_decimal isDigit⟩, ?_⟩
  rintro earlier later split ⟨-, otherDigit, tail, rfl, -⟩
  have places : earlier ++ (Preamble.userLocator ++ otherDigit :: tail) =
      frames ++ '\n' :: ([' ', ' '] ++ (Preamble.userLocator ++ digit :: rest)) := by
    rw [← split, List.append_assoc]
    rfl
  rcases Text.word_before_or_behind (by decide) user_locator_on_line places with
    within | ⟨more, rfl, behind⟩
  · have named : fileNamed Preamble.userFile <+: Preamble.userLocator := List.prefix_append _ _
    exact absurd (named.isInfix.trans within) sandbox.foreign
  · -- the two blanks of the indent begin no locator
    rcases more with _ | ⟨first, _ | ⟨second, more⟩⟩
    · exact absurd (List.cons.inj behind).1 (by decide)
    · exact absurd (List.cons.inj (List.cons.inj behind).2).1 (by decide)
    · simp

def cutBehindFrames (sandbox : SandboxFrames Preamble.userFile frames) {digit : Char}
    (isDigit : Text.isAsciiDigit digit = true) (rest : Text) :
    Preamble.Cut (Preamble.banner ++
      (frames ++ "\n  ".toList ++ (Preamble.userLocator ++ digit :: rest))) where
  before := []
  dropped := frames
  blanks := "\n  ".toList
  user := Preamble.userLocator ++ digit :: rest
  atBanner := ⟨rfl, List.prefix_append _ _, fun _ _ _ _ => Nat.zero_le _⟩
  atUser := first_user_locator sandbox isDigit
  blank := by decide
  solid := sandbox.solid

theorem condense_behind_frames (sandbox : SandboxFrames Preamble.userFile frames)
    (live : BeginsLive Preamble.userFile code) :
    Preamble.condense (Preamble.banner ++ (frames ++ code)) = Preamble.banner ++ code := by
  obtain ⟨digit, rest, isDigit, rfl⟩ := live
  rw [← user_locator_eq, ← List.append_assoc frames]
  exact Preamble.condense_of_cut (cutBehindFrames sandbox isDigit rest)

theorem no_sandbox_frames (liveBuffer : Text) : SandboxFrames liveBuffer [] where
  solid := by simp
  unannounced := by simp [Preamble.banner_ne_nil]
  foreign := by simp [file_named_eq]

theorem hides_sandbox_of_user_file : HidesSandbox Preamble.userFile := by
  intro settings _ _ frames code buffer sandbox live
  rw [raw_errors_of_present, raw_errors_of_present, Traceback.normalize, Traceback.normalize,
    condense_behind_frames sandbox live]
  have bare := condense_behind_frames (no_sandbox_frames Preamble.userFile) live
  rw [List.nil_append] at bare
  rw [bare]

end UserFile

section OtherFiles

variable {liveBuffer : Text}

/-- A report that quotes one file name and no other text. -/
theorem no_user_code_in {front back : Text} (noneBefore : '"' ∉ front)
    (unquoted : '"' ∉ liveBuffer) (noneBehind : '"' ∉ back)
    (other : liveBuffer ≠ Preamble.userFile) :
    ¬ Preamble.HasUserCode (front ++ (fileNamed liveBuffer ++ back)) := by
  rintro ⟨before, _, gap, _, atBanner, rfl, -, digit, rest, rfl, -⟩
  have split := atBanner.split
  rw [user_locator_eq, file_named_eq, file_named_eq] at split
  have quotations : (front ++ "File ".toList) ++ '"' :: (liveBuffer ++ '"' :: back) =
      (before ++ (Preamble.banner ++ (gap ++ "File ".toList))) ++
        '"' :: (Preamble.userFile ++ '"' :: (", line ".toList ++ digit :: rest)) := by
    simpa using split
  exact other
    (Text.quotation_unique (by simpa using noneBefore) unquoted noneBehind quotations).symm

/-- A frame of the live buffer, up to the first digit of its line. -/
def liveFrame (liveBuffer : Text) : Text :=
  "\n  ".toList ++ (fileNamed liveBuffer ++ ", line ".toList ++ ['1'])

theorem normalize_live_frame {front : Text} (noneBefore : '"' ∉ front)
    (unquoted : '"' ∉ liveBuffer) (other : liveBuffer ≠ Preamble.userFile) :
    Traceback.normalize (front ++ liveFrame liveBuffer) = front ++ liveFrame liveBuffer := by
  have absent : ¬ Preamble.HasUserCode (front ++ liveFrame liveBuffer) := by
    have split : front ++ liveFrame liveBuffer =
        (front ++ "\n  ".toList) ++ (fileNamed liveBuffer ++ ", line 1".toList) := by
      simp [liveFrame]
    rw [split]
    exact no_user_code_in (by simpa using noneBefore) unquoted (by decide) other
  rw [Traceback.normalize, Preamble.condense_of_no_user_code absent]
  apply Text.trim_end_of_solid
  have last : (front ++ liveFrame liveBuffer).getLast? = some '1' := by
    rw [liveFrame, ← List.append_assoc, ← List.append_assoc]
    exact List.getLast?_concat
  rw [last]
  decide

theorem shows_sandbox (named : liveBuffer ≠ []) (unquoted : '"' ∉ liveBuffer)
    (other : liveBuffer ≠ Preamble.userFile) : ¬ HidesSandbox liveBuffer := by
  intro hides
  have sandbox : SandboxFrames liveBuffer ['x'] := by
    refine ⟨by decide, by decide, fun within => ?_⟩
    have shorter := within.length_le
    simp [file_named_eq] at shorter
  have same := hides ⟨⟨liveBuffer, []⟩, true⟩ (by rw [Settings.fault?, if_neg named]; rfl) rfl
    ['x'] (liveFrame liveBuffer) [] sandbox ⟨'1', [], by decide, rfl⟩
  rw [raw_errors_of_present, raw_errors_of_present, ← List.append_assoc,
    normalize_live_frame (by decide) unquoted other,
    normalize_live_frame (by decide) unquoted other] at same
  have lengths := congrArg (fun fragments => (fragments.map (·.text.length)).sum) same
  simp at lengths

end OtherFiles

/-- The frames of the sandbox are hidden under the name that the sandbox gives
by itself, and under no other name that the settings may give. -/
theorem hides_sandbox_iff {liveBuffer : Text} (named : liveBuffer ≠ [])
    (unquoted : '"' ∉ liveBuffer) :
    HidesSandbox liveBuffer ↔ liveBuffer = Preamble.userFile := by
  constructor
  · intro hides
    by_contra other
    exact shows_sandbox named unquoted other hides
  · rintro rfl
    exact hides_sandbox_of_user_file

theorem main_is_not_hidden :
    HidesSandbox Preamble.userFile ∧ ¬ HidesSandbox "<main>".toList := by
  have user : HidesSandbox Preamble.userFile ↔ Preamble.userFile = Preamble.userFile :=
    hides_sandbox_iff (by decide) (by decide)
  have main : HidesSandbox "<main>".toList ↔ "<main>".toList = Preamble.userFile :=
    hides_sandbox_iff (by decide) (by decide)
  exact ⟨user.mpr rfl, fun hides => absurd (main.mp hides) (by decide)⟩

/-- The live buffer under another name. -/
def mainSettings : Settings := ⟨⟨"<main>".toList, "    ".toList⟩, true⟩

def engineFrames : Text :=
  "\n  File \"/lib/python311.zip/_pyodide/_base.py\", line 499, in eval_code\n".toList ++
    "    .run(globals, locals)".toList

def mainCode : Text :=
  "\n  File \"<main>\", line 1\nNameError: name 'z' is not defined".toList

theorem engine_frames_before_main_are_shown :
    mainSettings.fault? = none ∧
      SandboxFrames mainSettings.presenter.liveBuffer engineFrames ∧
      BeginsLive mainSettings.presenter.liveBuffer mainCode ∧
      rawErrors (mainSettings.presenter.present (Preamble.banner ++ (engineFrames ++ mainCode))
          ["z + 1".toList]) ≠
        rawErrors (mainSettings.presenter.present (Preamble.banner ++ mainCode)
          ["z + 1".toList]) := by
  refine ⟨rfl, ⟨by decide +kernel, by decide +kernel, by decide +kernel⟩,
    ⟨'1', "\nNameError: name 'z' is not defined".toList, by decide, rfl⟩, ?_⟩
  rw [raw_errors_of_present, raw_errors_of_present]
  decide +kernel

end Presenter

end TraceGloss
