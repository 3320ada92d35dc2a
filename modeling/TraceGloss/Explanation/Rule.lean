import TraceGloss.Explanation.Form
import TraceGloss.Explanation.Reply

/-!
# Rules

A rule explains one kind of complaint. Its trigger decides whether it applies,
by the message alone or by the exception type alone, and its reply gives the
explanation. The family says for which exceptions a rule was written, and has
no influence on what the rule does.
-/

namespace TraceGloss

set_option autoImplicit false

/-- Exceptions that rules are grouped by. -/
inductive Family where
  | syntaxError | indentationError | indexError | nameError | unboundLocalError | typeError
  | valueError | attributeError | keyError | importError | fileNotFoundError | zeroDivisionError
  deriving DecidableEq, Repr

def Family.name : Family → Text
  | syntaxError => "SyntaxError".toList
  | indentationError => "IndentationError".toList
  | indexError => "IndexError".toList
  | nameError => "NameError".toList
  | unboundLocalError => "UnboundLocalError".toList
  | typeError => "TypeError".toList
  | valueError => "ValueError".toList
  | attributeError => "AttributeError".toList
  | keyError => "KeyError".toList
  | importError => "ImportError".toList
  | fileNotFoundError => "FileNotFoundError".toList
  | zeroDivisionError => "ZeroDivisionError".toList

inductive Trigger where
  | exact (message : Text)
  /-- The message has one of these forms; the first counts. -/
  | form (forms : List Form)
  /-- The exception has this type, whatever the message. -/
  | exceptionType (name : Text)

/-- What a trigger captures of a complaint, when it applies. -/
def Trigger.captures? (complaint : Complaint) : Trigger → Option (List Text)
  | exact message => if complaint.message = message then some [] else none
  | form forms => forms.findSome? fun form => form.captures? complaint.message
  | exceptionType name => if complaint.exceptionType = some name then some [] else none

theorem Trigger.exact_captures {complaint : Complaint} {message : Text} {captures : List Text}
    (found : (exact message).captures? complaint = some captures) :
    complaint.message = message ∧ captures = [] := by
  simp only [captures?] at found
  split at found
  · next same => exact ⟨same, (Option.some.inj found).symm⟩
  · simp at found

structure Rule where
  name : Text
  family : Family
  trigger : Trigger
  reply : Reply

namespace Rule

def applies (rule : Rule) (complaint : Complaint) : Bool :=
  (rule.trigger.captures? complaint).isSome

def explain? (rule : Rule) (complaint : Complaint) : Option Text :=
  (rule.trigger.captures? complaint).map fun captures => rule.reply.text complaint captures

end Rule

end TraceGloss
