import TraceGloss.Explanation.Basic
import TraceGloss.Proofs.Explanation.Pattern
import TraceGloss.Proofs.Text.Runs
import Mathlib.Data.List.Forall2

/-!
# Patterns of replies

A reply has a pattern too, as soon as the form of the message is known: what
was captured keeps the class of its part, and all else in a reply is words or a
numeral. Only a reply that quotes the whole message has none. A reply and a
message whose patterns do not meet are different texts.
-/

namespace TraceGloss

set_option autoImplicit false

/-- The classes of the captures of a form. -/
def Form.classes (form : Form) : List CharClass :=
  form.filterMap FormPart.class?

/-- Each capture is made of characters of its class. -/
def CapturesWithin (classes : List CharClass) (captures : List Text) : Prop :=
  List.Forall₂ (fun kind capture => ∀ c ∈ capture, kind.admits c = true) classes captures

theorem Form.captures_within {form : Form} {message : Text} {captures : List Text}
    (found : form.captures? message = some captures) : CapturesWithin form.classes captures := by
  induction form generalizing message captures with
  | nil =>
      cases message with
      | nil =>
          obtain rfl := Option.some.inj found
          exact .nil
      | cons => simp [captures?] at found
  | cons part parts ih =>
      obtain ⟨taken, rest, later, -, takes, more, rfl⟩ := captures_cons found
      cases part with
      | words | oneOf => exact ih more
      | char | stretch | anyStretch =>
          exact .cons (FormPart.takes_within takes rfl) (ih more)

/-- The pattern of a capture, which is empty when the form has none there. -/
def capturePattern (classes : List CharClass) (index : Nat) (rest : Pattern) : Pattern :=
  (classes[index]?.map (Pattern.many · rest)).getD rest

/-- The pattern of a data type's label: one of the known labels, or the name and
its suffix. -/
def labelPattern (classes : List CharClass) (index : Nat) (suffix : Text) (rest : Pattern) :
    Pattern :=
  .either (Label.typeNames.foldr
    (fun entry => .either (.spelled (Label.dataType entry.1 suffix) rest)) .nothing)
    (capturePattern classes index (.spelled suffix rest))

def Slot.pattern? (classes : List CharClass) (rest : Pattern) : Slot → Option Pattern
  | words text => some (.spelled text rest)
  | captured index => some (capturePattern classes index rest)
  | typeLabel index suffix => some (labelPattern classes index suffix rest)
  | arguments _ => some (.many (.except '\'') rest)
  | lineNumber => some (.many .digit rest)
  | message => none

/-- The pattern of what fills some slots, if none of them holds the message. -/
def slotsPattern? (classes : List CharClass) : List Slot → Option Pattern
  | [] => some .finish
  | slot :: slots =>
      (slotsPattern? classes slots).bind fun rest => slot.pattern? classes rest

section Soundness

variable {classes : List CharClass} {captures : List Text} {rest pattern : Pattern} {text : Text}

theorem describes_capture (within : CapturesWithin classes captures) (index : Nat)
    (describes : rest.Describes text) :
    (capturePattern classes index rest).Describes (captures.getD index [] ++ text) := by
  induction within generalizing index with
  | nil => simpa [capturePattern] using describes
  | cons admitted _ ih =>
      cases index with
      | zero => exact Pattern.describes_run admitted describes
      | succ index => exact ih index

theorem describes_label (within : CapturesWithin classes captures) (index : Nat) (suffix : Text)
    (describes : rest.Describes text) :
    (labelPattern classes index suffix rest).Describes
      (Label.dataType (captures.getD index []) suffix ++ text) := by
  cases known : Label.typeNames.lookup (captures.getD index []) with
  | none =>
      apply Pattern.Describes.right
      have plain : Label.dataType (captures.getD index []) suffix =
          captures.getD index [] ++ suffix := by
        simp only [Label.dataType, known]
      rw [plain, List.append_assoc]
      exact describes_capture within index (Pattern.describes_spelled suffix describes)
  | some label =>
      apply Pattern.Describes.left
      obtain ⟨before, after, split, -⟩ := List.lookup_eq_some_iff.mp known
      have member : (captures.getD index [], label) ∈ Label.typeNames := by simp [split]
      exact Pattern.describes_choice member (Pattern.describes_spelled _ describes)

theorem describes_slot {complaint : Complaint} {slot : Slot}
    (within : CapturesWithin classes captures) (own : slot.pattern? classes rest = some pattern)
    (describes : rest.Describes text) :
    pattern.Describes (slot.fill complaint captures ++ text) := by
  cases slot with
  | words words =>
      obtain rfl := Option.some.inj own
      exact Pattern.describes_spelled words describes
  | captured index =>
      obtain rfl := Option.some.inj own
      exact describes_capture within index describes
  | typeLabel index suffix =>
      obtain rfl := Option.some.inj own
      exact describes_label within index suffix describes
  | arguments index =>
      obtain rfl := Option.some.inj own
      apply Pattern.describes_run _ describes
      intro c member
      exact (List.mem_filter.mp member).2
  | lineNumber =>
      obtain rfl := Option.some.inj own
      apply Pattern.describes_run _ describes
      intro c member
      exact Text.ascii_digit_is_decimal (Text.numeral_digits complaint.lineNumber c member)
  | message => simp [Slot.pattern?] at own

/-- What fills the slots fits their pattern. -/
theorem describes_slots (complaint : Complaint) {slots : List Slot}
    (within : CapturesWithin classes captures) (own : slotsPattern? classes slots = some pattern) :
    pattern.Describes (slots.flatMap (Slot.fill complaint captures)) := by
  induction slots generalizing pattern with
  | nil =>
      obtain rfl := Option.some.inj own
      exact .finish
  | cons slot slots ih =>
      obtain ⟨rest, restOwn, slotOwn⟩ := Option.bind_eq_some_iff.mp own
      rw [List.flatMap_cons]
      exact describes_slot within slotOwn (ih restOwn)

end Soundness

end TraceGloss
