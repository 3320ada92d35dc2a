import TraceGloss.Proofs.Explanation.CatalogOrder
import TraceGloss.Proofs.Text.Runs

/-!
# The first rule for a message

A message that is put together as a form says gives the form its captures, as
long as each stretch ends where the next part begins. Its explanation comes from
the rule of that form only if the rules in front let the message pass, and they
do if none of their patterns meets a pattern that describes it.
-/

namespace TraceGloss

set_option autoImplicit false

namespace CharClass

variable {run : Text}

theorem except_admits {excluded : Char} (absent : excluded ∉ run) :
    ∀ c ∈ run, (except excluded).admits c = true :=
  Text.differ_of_not_mem absent

theorem inline_admits (onLine : '\n' ∉ run) : ∀ c ∈ run, inline.admits c = true :=
  except_admits onLine

end CharClass

namespace Form

variable {parts : Form} {text message rest : Text} {captures : List Text}

theorem captures_words (more : captures? parts rest = some captures) :
    captures? (.words text :: parts) (text ++ rest) = some captures := by
  rw [captures?, Text.after_append]
  exact more

/-- Words alone are a form of their own. -/
theorem captures_only_words (text : Text) : captures? [.words text] text = some [] := by
  have whole : captures? [.words text] (text ++ []) = some [] := captures_words rfl
  rwa [List.append_nil] at whole

theorem captures_stretch {kind : CharClass} {run : Text} (nonempty : run ≠ [])
    (within : ∀ c ∈ run, kind.admits c = true) (ended : ∀ c ∈ rest.head?, kind.admits c = false)
    (more : captures? parts rest = some captures) :
    captures? (.stretch kind :: parts) (run ++ rest) = some (run :: captures) := by
  rw [captures?, Text.take_run within ended, Text.drop_run within ended, more]
  cases run with
  | nil => exact absurd rfl nonempty
  | cons c run => rfl

theorem captures_any_stretch {kind : CharClass} {run : Text}
    (within : ∀ c ∈ run, kind.admits c = true) (ended : ∀ c ∈ rest.head?, kind.admits c = false)
    (more : captures? parts rest = some captures) :
    captures? (.anyStretch kind :: parts) (run ++ rest) = some (run :: captures) := by
  rw [captures?, Text.take_run within ended, Text.drop_run within ended, more]
  rfl

section Alternatives

variable {texts : List Text}

theorem captures_first_of (more : captures? (.words text :: parts) message = some captures) :
    captures? (.oneOf (text :: texts) :: parts) message = some captures := by
  rw [captures?] at more
  rw [captures?, List.findSome?_cons, more]

theorem captures_later_of (different : Text.after? text message = none)
    (more : captures? (.oneOf texts :: parts) message = some captures) :
    captures? (.oneOf (text :: texts) :: parts) message = some captures := by
  rw [captures?] at more
  rw [captures?, List.findSome?_cons, different]
  exact more

end Alternatives

end Form

section Passing

variable {pattern : Pattern} {complaint : Complaint}

/-- Whether a trigger looks at messages only, and at none of a pattern. -/
def Trigger.avoids (pattern : Pattern) (trigger : Trigger) : Bool :=
  (trigger.pattern?.map fun own => !own.meets pattern).getD false

theorem Trigger.captures_nothing {trigger : Trigger} (avoids : trigger.avoids pattern = true)
    (described : pattern.Describes complaint.message) : trigger.captures? complaint = none := by
  by_contra applies
  obtain ⟨captures, found⟩ := Option.ne_none_iff_exists'.mp applies
  unfold Trigger.avoids at avoids
  cases own : trigger.pattern? with
  | none => simp [own] at avoids
  | some ownPattern =>
      have meets := Pattern.meets_of_describes (describes_of_captures own found) described
      simp [own, meets] at avoids

/-- A rule behind others that do not apply explains a complaint if it applies. -/
theorem explain_by_passing {passed later : List Rule} {rule : Rule} {captures : List Text}
    (missed : ∀ other ∈ passed, other.trigger.captures? complaint = none)
    (captured : rule.trigger.captures? complaint = some captures) :
    explainBy (passed ++ rule :: later) complaint = rule.reply.text complaint captures := by
  have nothing : (passed.findSome? fun other => other.explain? complaint) = none := by
    rw [List.findSome?_eq_none_iff]
    intro other member
    rw [Rule.explain?, missed other member]
    rfl
  have explained : rule.explain? complaint = some (rule.reply.text complaint captures) := by
    rw [Rule.explain?, captured]
    rfl
  rw [explainBy, List.findSome?_append, nothing, List.findSome?_cons, explained]
  rfl

/-- A rule behind others that avoid a message explains it if it applies. -/
theorem explain_by_first {passed later : List Rule} {rule : Rule} {captures : List Text}
    (described : pattern.Describes complaint.message)
    (avoided : ∀ other ∈ passed, other.trigger.avoids pattern = true)
    (captured : rule.trigger.captures? complaint = some captures) :
    explainBy (passed ++ rule :: later) complaint = rule.reply.text complaint captures :=
  explain_by_passing
    (fun other member => Trigger.captures_nothing (avoided other member) described) captured

/-- A message that a rule of the catalog takes apart, and that all rules in front
of this rule avoid, is explained by it. -/
theorem Catalog.explained_by_form {passed later : List Rule} {rule : Rule} {form : Form}
    {message : Text} {captures : List Text} (printed : complaint.message = message)
    (split : rules = passed ++ rule :: later) (own : rule.trigger = .form [form])
    (described : pattern.Describes message)
    (avoided : ∀ other ∈ passed, other.trigger.avoids pattern = true)
    (captured : form.captures? message = some captures) :
    complaint.explanation = rule.reply.text complaint captures := by
  rw [← printed] at described captured
  have triggered : rule.trigger.captures? complaint = some captures := by
    rw [own, Trigger.captures?, List.findSome?_cons, captured]
  rw [Complaint.explanation, split]
  exact explain_by_first described avoided triggered

end Passing

end TraceGloss
