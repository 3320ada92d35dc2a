import TraceGloss.Proofs.Explanation.Parts

/-!
# Patterns of messages

A pattern describes a set of messages, character by character. Every form has
one, which forgets what is captured and that a stretch is as long as possible,
so it describes at least the messages of the form. Whether a message can fit
two patterns at once is decided by reading both of them side by side: two
patterns that do not meet have no message in common.
-/

namespace TraceGloss

set_option autoImplicit false

/-- Whether a character may be in both classes. Only for a class that lists its
characters this is more than a guess. -/
def CharClass.mayShare : CharClass → CharClass → Bool
  | .anyOf chars, other => chars.any other.admits
  | kind, .anyOf chars => chars.any kind.admits
  | _, _ => true

theorem CharClass.may_share {kind other : CharClass} {c : Char} (here : kind.admits c = true)
    (there : other.admits c = true) : kind.mayShare other = true := by
  cases kind with
  | anyOf chars =>
      have member : c ∈ chars := by simpa [admits] using here
      exact List.any_eq_true.mpr ⟨c, member, there⟩
  | except _ | digit | inline =>
      cases other with
      | anyOf chars =>
          have member : c ∈ chars := by simpa [admits] using there
          exact List.any_eq_true.mpr ⟨c, member, here⟩
      | except _ | digit | inline => rfl

inductive Pattern where
  /-- No message at all. -/
  | nothing
  /-- The end of the message. -/
  | finish
  | one (kind : CharClass) (rest : Pattern)
  /-- Any number of characters of a class. -/
  | many (kind : CharClass) (rest : Pattern)
  | either (left right : Pattern)

namespace Pattern

inductive Describes : Pattern → Text → Prop where
  | finish : Describes finish []
  | one {kind : CharClass} {rest : Pattern} {c : Char} {text : Text} :
      kind.admits c = true → Describes rest text → Describes (one kind rest) (c :: text)
  | skip {kind : CharClass} {rest : Pattern} {text : Text} :
      Describes rest text → Describes (many kind rest) text
  | more {kind : CharClass} {rest : Pattern} {c : Char} {text : Text} :
      kind.admits c = true → Describes (many kind rest) text →
        Describes (many kind rest) (c :: text)
  | left {left right : Pattern} {text : Text} :
      Describes left text → Describes (either left right) text
  | right {left right : Pattern} {text : Text} :
      Describes right text → Describes (either left right) text

section Meeting

/-- Whether the empty message fits. -/
def mayEnd : Pattern → Bool
  | nothing => false
  | finish => true
  | one _ _ => false
  | many _ rest => mayEnd rest
  | either left right => mayEnd left || mayEnd right

/-- Whether a character of a class, and behind it a message that `rest` allows,
fits a pattern. -/
def meetsOne (kind : CharClass) (rest : Pattern → Bool) : Pattern → Bool
  | nothing => false
  | finish => false
  | one other more => kind.mayShare other && rest more
  | many other more =>
      meetsOne kind rest more || (kind.mayShare other && rest (many other more))
  | either left right => meetsOne kind rest left || meetsOne kind rest right

/-- The same for any number of characters of a class. -/
def meetsMany (kind : CharClass) (rest : Pattern → Bool) : Pattern → Bool
  | nothing => false
  | finish => rest finish
  | one other more =>
      rest (one other more) || (kind.mayShare other && meetsMany kind rest more)
  | many other more => rest (many other more) || meetsMany kind rest more
  | either left right => meetsMany kind rest left || meetsMany kind rest right

/-- Whether two patterns may have a message in common. -/
def meets : Pattern → Pattern → Bool
  | nothing => fun _ => false
  | finish => mayEnd
  | one kind rest => meetsOne kind (meets rest)
  | many kind rest => meetsMany kind (meets rest)
  | either left right => fun other => meets left other || meets right other

variable {kind : CharClass} {rest : Pattern → Bool} {pattern other : Pattern} {text : Text}
  {c : Char}

theorem may_end (describes : Describes pattern []) : mayEnd pattern = true := by
  generalize ended : ([] : Text) = text at describes
  induction describes with
  | finish => rfl
  | one | more => simp at ended
  | skip _ ih => exact ih ended
  | left _ ih => simp [mayEnd, ih ended]
  | right _ ih => simp [mayEnd, ih ended]

theorem meets_one (admitted : kind.admits c = true)
    (continued : ∀ pattern, Describes pattern text → rest pattern = true)
    (describes : Describes pattern (c :: text)) : meetsOne kind rest pattern = true := by
  generalize whole : c :: text = message at describes
  induction describes with
  | finish => simp at whole
  | one there following =>
      obtain ⟨rfl, rfl⟩ := List.cons.inj whole
      simp [meetsOne, CharClass.may_share admitted there, continued _ following]
  | skip _ ih => simp [meetsOne, ih whole]
  | more there following =>
      obtain ⟨rfl, rfl⟩ := List.cons.inj whole
      simp [meetsOne, CharClass.may_share admitted there, continued _ following]
  | left _ ih => simp [meetsOne, ih whole]
  | right _ ih => simp [meetsOne, ih whole]

theorem meets_many_here (continued : ∀ pattern, Describes pattern text → rest pattern = true)
    (describes : Describes pattern text) : meetsMany kind rest pattern = true := by
  induction describes with
  | finish => exact continued _ .finish
  | one there following => simp [meetsMany, continued _ (.one there following)]
  | skip following => simp [meetsMany, continued _ (.skip following)]
  | more there following => simp [meetsMany, continued _ (.more there following)]
  | left _ ih => simp [meetsMany, ih continued]
  | right _ ih => simp [meetsMany, ih continued]

theorem meets_many_later (admitted : kind.admits c = true)
    (continued : ∀ pattern, Describes pattern text → meetsMany kind rest pattern = true)
    (describes : Describes pattern (c :: text)) : meetsMany kind rest pattern = true := by
  generalize whole : c :: text = message at describes
  induction describes with
  | finish => simp at whole
  | one there following =>
      obtain ⟨rfl, rfl⟩ := List.cons.inj whole
      simp [meetsMany, CharClass.may_share admitted there, continued _ following]
  | skip _ ih => simp [meetsMany, ih whole]
  | more there following =>
      obtain ⟨rfl, rfl⟩ := List.cons.inj whole
      exact continued _ following
  | left _ ih => simp [meetsMany, ih whole]
  | right _ ih => simp [meetsMany, ih whole]

/-- Patterns that describe one message meet. -/
theorem meets_of_describes (here : Describes pattern text) (there : Describes other text) :
    pattern.meets other = true := by
  induction here generalizing other with
  | finish => exact may_end there
  | one admitted _ ih => exact meets_one admitted (fun _ => ih) there
  | skip _ ih => exact meets_many_here (fun _ => ih) there
  | more admitted _ ih => exact meets_many_later admitted (fun _ => ih) there
  | left _ ih => simp [meets, ih there]
  | right _ ih => simp [meets, ih there]

end Meeting

/-- The pattern of some words with another pattern behind them. -/
def spelled (words : Text) (rest : Pattern) : Pattern :=
  words.foldr (fun c => one (.anyOf [c])) rest

variable {kind : CharClass} {rest : Pattern} {text : Text}

theorem describes_spelled (words : Text) (describes : Describes rest text) :
    Describes (spelled words rest) (words ++ text) := by
  induction words with
  | nil => exact describes
  | cons c words ih => exact .one (by simp [CharClass.admits]) ih

theorem describes_only_words (words : Text) : Describes (spelled words finish) words := by
  have whole := describes_spelled words .finish
  rwa [List.append_nil] at whole

theorem describes_run {run : Text} (within : ∀ c ∈ run, kind.admits c = true)
    (describes : Describes rest text) : Describes (many kind rest) (run ++ text) := by
  induction run with
  | nil => exact .skip describes
  | cons c run ih =>
      exact .more (within c List.mem_cons_self)
        (ih fun d member => within d (List.mem_cons_of_mem c member))

theorem describes_some_run {run : Text} (nonempty : run ≠ [])
    (within : ∀ c ∈ run, kind.admits c = true) (describes : Describes rest text) :
    Describes (one kind (many kind rest)) (run ++ text) := by
  cases run with
  | nil => exact absurd rfl nonempty
  | cons c run =>
      exact .one (within c List.mem_cons_self)
        (describes_run (fun d member => within d (List.mem_cons_of_mem c member)) describes)

end Pattern

/-- The pattern of a part with another pattern behind it. -/
def FormPart.pattern (rest : Pattern) : FormPart → Pattern
  | .words text => .spelled text rest
  | .oneOf texts => texts.foldr (fun text => .either (.spelled text rest)) .nothing
  | .char kind => .one kind rest
  | .stretch kind => .one kind (.many kind rest)
  | .anyStretch kind => .many kind rest

def Form.pattern : Form → Pattern
  | [] => .finish
  | part :: parts => part.pattern (pattern parts)

/-- A choice of patterns describes what one of them does. -/
theorem Pattern.describes_choice {α : Type} {choices : List α} {pattern : α → Pattern} {text : Text}
    {choice : α} (member : choice ∈ choices) (describes : (pattern choice).Describes text) :
    Describes (choices.foldr (fun choice => either (pattern choice)) nothing) text := by
  induction choices with
  | nil => simp at member
  | cons first others ih =>
      rcases List.mem_cons.mp member with rfl | later
      · exact .left describes
      · exact .right (ih later)

theorem FormPart.describes_taken {part : FormPart} {rest : Pattern} {taken text : Text}
    (takes : part.Takes taken) (describes : rest.Describes text) :
    (part.pattern rest).Describes (taken ++ text) := by
  cases part with
  | words words =>
      obtain rfl := takes
      exact Pattern.describes_spelled taken describes
  | oneOf texts => exact Pattern.describes_choice takes (Pattern.describes_spelled taken describes)
  | char kind =>
      obtain ⟨c, rfl, admitted⟩ := takes
      exact .one admitted describes
  | stretch kind => exact Pattern.describes_some_run takes.1 takes.2 describes
  | anyStretch kind => exact Pattern.describes_run takes describes

theorem Form.describes_of_captures {form : Form} {message : Text} {captures : List Text}
    (found : form.captures? message = some captures) : form.pattern.Describes message := by
  induction form generalizing message captures with
  | nil =>
      cases message with
      | nil => exact .finish
      | cons => simp [captures?] at found
  | cons part parts ih =>
      obtain ⟨taken, rest, later, rfl, takes, more, -⟩ := captures_cons found
      exact FormPart.describes_taken takes (ih more)

end TraceGloss
