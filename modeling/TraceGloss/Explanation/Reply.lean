import TraceGloss.Explanation.Complaint
import TraceGloss.Label
import TraceGloss.Text.Numeral

/-!
# Replies

A reply is a Japanese sentence with slots for what was captured from the
message and for what surrounds it. The slots are mostly fixed. They may also be
chosen by the snippet or by the captures, never by anything else.
-/

namespace TraceGloss

set_option autoImplicit false

inductive Slot where
  | words (text : Text)
  | captured (index : Nat)
  /-- A capture as the label of a data type. -/
  | typeLabel (index : Nat) (suffix : Text)
  | arguments (index : Nat)
  | lineNumber
  | message
  deriving DecidableEq, Repr

instance : Coe String Slot :=
  ⟨fun text => .words text.toList⟩

/-- How the slots of a reply are found. -/
inductive Reply where
  | always (slots : List Slot)
  | bySnippet (choose : Text → List Slot)
  | byCaptures (choose : List Text → List Slot)

/-- A list of quoted names, in which `and` comes before the last, as plain
names between commas. -/
def plainArguments (list : Text) : Text :=
  let commas := Text.replaceFirst " and ".toList ", ".toList
    (Text.replaceFirst ", and ".toList ", ".toList list)
  commas.filter (· != '\'')

/-- The text in a slot. A capture that the form does not have is empty. -/
def Slot.fill (complaint : Complaint) (captures : List Text) : Slot → Text
  | words text => text
  | captured index => captures.getD index []
  | typeLabel index suffix => Label.dataType (captures.getD index []) suffix
  | arguments index => plainArguments (captures.getD index [])
  | lineNumber => Text.numeral complaint.lineNumber
  | message => complaint.message

def Reply.slots (complaint : Complaint) (captures : List Text) : Reply → List Slot
  | always slots => slots
  | bySnippet choose => choose complaint.snippet
  | byCaptures choose => choose captures

def Reply.text (complaint : Complaint) (captures : List Text) (reply : Reply) : Text :=
  (reply.slots complaint captures).flatMap (Slot.fill complaint captures)

end TraceGloss
