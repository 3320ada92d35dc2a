import TraceGloss.Explanation.Rule
import Mathlib.Data.List.TakeWhile

/-!
# What the parts of a form take

A message of a form falls into pieces, one for each part of the form: what the
first part takes, and behind it a message of the other parts. The captures are
the pieces of those parts that have a class, so each of them stands in the
message as it is.
-/

namespace TraceGloss

set_option autoImplicit false

namespace FormPart

/-- The class of what a part captures. -/
def class? : FormPart → Option CharClass
  | .words _ | .oneOf _ => none
  | .char kind | .stretch kind | .anyStretch kind => some kind

/-- What a part may take of a message. That a stretch takes as much as it can
is left out. -/
def Takes (taken : Text) : FormPart → Prop
  | words text => taken = text
  | oneOf texts => taken ∈ texts
  | char kind => ∃ c, taken = [c] ∧ kind.admits c = true
  | stretch kind => taken ≠ [] ∧ ∀ c ∈ taken, kind.admits c = true
  | anyStretch kind => ∀ c ∈ taken, kind.admits c = true

/-- The captures of the parts behind, and in front of them the piece of this
part if it captures. -/
def keep (taken : Text) (later : List Text) (part : FormPart) : List Text :=
  if part.class?.isSome then taken :: later else later

variable {part : FormPart} {taken capture : Text} {later : List Text}

theorem takes_within {kind : CharClass} (takes : part.Takes taken)
    (own : part.class? = some kind) : ∀ c ∈ taken, kind.admits c = true := by
  cases part with
  | words | oneOf => simp [class?] at own
  | char =>
      obtain rfl := Option.some.inj own
      obtain ⟨c, rfl, admitted⟩ := takes
      simpa using admitted
  | stretch =>
      obtain rfl := Option.some.inj own
      exact takes.2
  | anyStretch =>
      obtain rfl := Option.some.inj own
      exact takes

theorem mem_keep (member : capture ∈ part.keep taken later) :
    capture = taken ∨ capture ∈ later := by
  unfold keep at member
  split at member
  · exact List.mem_cons.mp member
  · exact Or.inr member

end FormPart

namespace Form

variable {part : FormPart} {parts form : Form} {message : Text} {captures : List Text}

/-- How a message of a form falls into the piece of the first part and a message
of the other parts. -/
theorem captures_cons (found : captures? (part :: parts) message = some captures) :
    ∃ taken rest later, message = taken ++ rest ∧ part.Takes taken ∧
      captures? parts rest = some later ∧ captures = part.keep taken later := by
  cases part with
  | words text =>
      obtain ⟨rest, read, more⟩ := Option.bind_eq_some_iff.mp found
      exact ⟨text, rest, captures, Text.after_eq_some_iff.mp read, rfl, more, rfl⟩
  | oneOf texts =>
      obtain ⟨text, member, chosen⟩ := List.exists_of_findSome?_eq_some found
      obtain ⟨rest, read, more⟩ := Option.bind_eq_some_iff.mp chosen
      exact ⟨text, rest, captures, Text.after_eq_some_iff.mp read, member, more, rfl⟩
  | char kind =>
      cases message with
      | nil => simp [captures?] at found
      | cons c rest =>
          simp only [captures?] at found
          split at found
          · next admitted =>
              obtain ⟨later, more, rfl⟩ := Option.map_eq_some_iff.mp found
              exact ⟨[c], rest, later, rfl, ⟨c, rfl, admitted⟩, more, rfl⟩
          · simp at found
  | stretch kind =>
      simp only [captures?] at found
      split at found
      · simp at found
      · next c taken run =>
          obtain ⟨later, more, rfl⟩ := Option.map_eq_some_iff.mp found
          have within : ∀ d ∈ c :: taken, kind.admits d = true := by
            rw [← run]
            exact fun d => List.mem_takeWhile_imp
          have split : message = (c :: taken) ++ message.dropWhile kind.admits := by
            rw [← run, List.takeWhile_append_dropWhile]
          exact ⟨c :: taken, _, later, split, ⟨List.cons_ne_nil c taken, within⟩, more, rfl⟩
  | anyStretch kind =>
      obtain ⟨later, more, rfl⟩ := Option.map_eq_some_iff.mp found
      exact ⟨message.takeWhile kind.admits, message.dropWhile kind.admits, later,
        List.takeWhile_append_dropWhile.symm, fun c => List.mem_takeWhile_imp, more, rfl⟩

theorem captures_infix (found : captures? form message = some captures) :
    ∀ capture ∈ captures, capture <:+: message := by
  induction form generalizing message captures with
  | nil =>
      cases message with
      | nil =>
          obtain rfl := Option.some.inj found
          simp
      | cons => simp [captures?] at found
  | cons part parts ih =>
      obtain ⟨taken, rest, later, rfl, -, more, rfl⟩ := captures_cons found
      intro capture member
      rcases FormPart.mem_keep member with rfl | behind
      · exact (List.prefix_append capture rest).isInfix
      · exact (ih more capture behind).trans (List.suffix_append taken rest).isInfix

end Form

theorem Trigger.captures_infix {trigger : Trigger} {complaint : Complaint} {captures : List Text}
    (found : trigger.captures? complaint = some captures) :
    ∀ capture ∈ captures, capture <:+: complaint.message := by
  cases trigger with
  | exact message =>
      obtain ⟨-, rfl⟩ := exact_captures found
      simp
  | form forms =>
      obtain ⟨form, -, fits⟩ := List.exists_of_findSome?_eq_some found
      exact Form.captures_infix fits
  | exceptionType name =>
      rw [captures?] at found
      split at found
      · obtain rfl := Option.some.inj found
        simp
      · simp at found

end TraceGloss
