/-!
# Text

Everything this library reads and writes is text: the list of its Unicode
scalar values. Strings appear only at the border of a program. Positions,
columns and byte offsets are computed from the characters, so no index can
fall inside one.
-/

namespace TraceGloss

set_option autoImplicit false

abbrev Text := List Char

namespace Text

/-- What follows `lead` in a text that begins with it. -/
def after? : Text → Text → Option Text
  | [], text => some text
  | _ :: _, [] => none
  | c :: lead, d :: text => if c = d then after? lead text else none

theorem after_append (lead rest : Text) : after? lead (lead ++ rest) = some rest := by
  induction lead with
  | nil => rfl
  | cons c lead ih => simp [after?, ih]

/-- Reading a lead loses nothing: the text is the lead and what follows it. -/
theorem after_eq_some_iff {lead text rest : Text} :
    after? lead text = some rest ↔ text = lead ++ rest := by
  constructor
  · intro found
    induction lead generalizing text with
    | nil => simpa [after?] using found
    | cons c lead ih =>
        cases text with
        | nil => simp [after?] at found
        | cons d text =>
            simp only [after?] at found
            split at found
            · next same => simp [same, ih found]
            · simp at found
  · rintro rfl
    exact after_append lead rest

/-- Whether `part` stands somewhere in the text. -/
def holds (part : Text) : Text → Bool
  | [] => (after? part []).isSome
  | c :: rest => (after? part (c :: rest)).isSome || holds part rest

/-- The text with the first occurrence of `part`, if any, replaced by `new`. -/
def replaceFirst (part new : Text) : Text → Text
  | [] => if part = [] then new else []
  | c :: rest =>
      match after? part (c :: rest) with
      | some following => new ++ following
      | none => c :: replaceFirst part new rest

end Text

end TraceGloss
