import TraceGloss.Report.Basic
import TraceGloss.Proofs.Text.Escaping
import TraceGloss.Proofs.Text.Pieces

/-!
# Reading transcripts

A transcript can be read back: escaping leaves no angle bracket in a text, so
the tags are where the angle brackets are, and every entity stands for one
character. No text of a fragment can therefore begin or end a fragment.
-/

namespace TraceGloss

set_option autoImplicit false

namespace FragmentKind

def openingTag (kind : FragmentKind) : Text :=
  "<span class=\"".toList ++ (kind.cssClass ++ "\">".toList)

/-- The kind of the fragments that have a class. -/
def ofClass? (name : Text) : Option FragmentKind :=
  all.find? fun kind => kind.cssClass == name

theorem of_class (kind : FragmentKind) : ofClass? kind.cssClass = some kind := by
  cases kind <;> decide +kernel

theorem opening_tag_append (kind : FragmentKind) (rest : Text) : kind.openingTag ++ rest =
    "<span class=\"".toList ++ (kind.cssClass ++ ("\">".toList ++ rest)) := by
  unfold openingTag
  rw [List.append_assoc, List.append_assoc]

/-- A class ends at the quote behind it. -/
theorem read_class (kind : FragmentKind) (rest : Text) :
    (kind.cssClass ++ ("\">".toList ++ rest)).takeWhile (· != '"') = kind.cssClass ∧
      (kind.cssClass ++ ("\">".toList ++ rest)).dropWhile (· != '"') = "\">".toList ++ rest := by
  have unquoted : ∀ c ∈ kind.cssClass, (c != '"') = true := by
    cases kind <;> decide +kernel
  have quoteEnds : ∀ c ∈ ("\">".toList ++ rest).head?, (c != '"') = false := by
    intro c first
    rw [← Option.some.inj first]
    rfl
  exact ⟨Text.take_run unquoted quoteEnds, Text.drop_run unquoted quoteEnds⟩

/-- No opening tag begins another. -/
theorem opening_prefix {kind other : FragmentKind} {rest : Text} :
    kind.openingTag <+: other.openingTag ++ rest ↔ kind = other := by
  constructor
  · rintro ⟨tail, split⟩
    rw [opening_tag_append, opening_tag_append] at split
    have classes := congrArg (List.takeWhile (· != '"')) (List.append_cancel_left split)
    rw [(read_class kind tail).1, (read_class other rest).1] at classes
    have kinds := congrArg ofClass? classes
    rw [of_class, of_class] at kinds
    exact Option.some.inj kinds
  · rintro rfl
    exact List.prefix_append _ _

end FragmentKind

namespace Fragment

def closingTag : Text := "</span>".toList

theorem html_eq (fragment : Fragment) : fragment.html =
    fragment.kind.openingTag ++ (Text.html fragment.text ++ closingTag) := by
  unfold html FragmentKind.openingTag closingTag
  simp only [List.append_assoc, -String.reduceToList]

/-- The fragment of a piece that begins behind the first bracket of an opening
tag and ends with the text. -/
def ofPiece? (piece : Text) : Option Fragment := do
  let rest ← Text.after? "span class=\"".toList piece
  let kind ← FragmentKind.ofClass? (rest.takeWhile (· != '"'))
  let escaped ← Text.after? "\">".toList (rest.dropWhile (· != '"'))
  return ⟨kind, Text.unescape escaped⟩

/-- Fragments from the pieces between the brackets that begin tags: one piece
for each opening tag, one for each closing tag. -/
def ofPieces? : List Text → Option (List Fragment)
  | [] => some []
  | [_] => none
  | piece :: closing :: more =>
      if closing = "/span>\n".toList then do
        let fragment ← ofPiece? piece
        let fragments ← ofPieces? more
        return fragment :: fragments
      else none

end Fragment

namespace Report

/-- The fragments of a transcript. -/
def fragmentsOf? (transcript : Text) : Option (List Fragment) :=
  match Text.split '<' transcript with
  | [] :: pieces => Fragment.ofPieces? pieces
  | _ => none

end Report

namespace Fragment

/-- What follows the first bracket of a fragment, up to its closing tag. -/
def piece (fragment : Fragment) : Text :=
  "span class=\"".toList ++ (fragment.kind.cssClass ++ ("\">".toList ++ Text.html fragment.text))

theorem of_piece (fragment : Fragment) : ofPiece? fragment.piece = some fragment := by
  obtain ⟨taken, dropped⟩ := fragment.kind.read_class (Text.html fragment.text)
  unfold ofPiece? piece
  rw [Text.after_append, Option.bind_eq_bind, Option.bind_some, taken, dropped,
    FragmentKind.of_class, Text.after_append]
  exact congrArg (fun text => some (⟨fragment.kind, text⟩ : Fragment))
    (Text.unescape_html fragment.text)

theorem html_line (fragment : Fragment) (rest : Text) : fragment.html ++ '\n' :: rest =
    '<' :: (fragment.piece ++ '<' :: ("/span>\n".toList ++ rest)) := by
  have opening : "<span class=\"".toList = '<' :: "span class=\"".toList := rfl
  have closing : "</span>".toList ++ '\n' :: rest = '<' :: ("/span>\n".toList ++ rest) := rfl
  rw [html_eq]
  unfold FragmentKind.openingTag closingTag piece
  rw [opening]
  simp only [List.append_assoc, List.cons_append, -String.reduceToList]
  rw [closing]

theorem no_bracket_in_piece (fragment : Fragment) : '<' ∉ fragment.piece := by
  have inClass : '<' ∉ fragment.kind.cssClass := by
    cases fragment.kind <;> decide +kernel
  intro member
  unfold piece at member
  simp only [List.mem_append] at member
  rcases member with inTag | inName | inEnd | inText
  · exact absurd inTag (by decide)
  · exact inClass inName
  · exact absurd inEnd (by decide)
  · exact Text.no_bracket_in_html fragment.text inText

end Fragment

namespace Report

theorem transcript_cons (markers : List Marker) (fragment : Fragment) (fragments : List Fragment) :
    (Report.mk markers (fragment :: fragments)).transcript =
      fragment.html ++ '\n' :: (Report.mk markers fragments).transcript := by
  simp [transcript]

theorem split_transcript (report : Report) : Text.split '<' report.transcript =
    [] :: report.fragments.flatMap fun fragment => [fragment.piece, "/span>\n".toList] := by
  obtain ⟨markers, fragments⟩ := report
  induction fragments with
  | nil => rfl
  | cons fragment fragments ih =>
      have cut : (Report.mk markers (fragment :: fragments)).transcript =
          [] ++ '<' :: (fragment.piece ++
            '<' :: ("/span>\n".toList ++ (Report.mk markers fragments).transcript)) := by
        rw [transcript_cons, fragment.html_line, List.nil_append]
      rw [cut, Text.split_append, Text.split_append, Text.split_quiet fragment.no_bracket_in_piece,
        Text.split_behind _ (by decide) ih]
      rfl

theorem of_pieces (fragments : List Fragment) : Fragment.ofPieces?
    (fragments.flatMap fun fragment => [fragment.piece, "/span>\n".toList]) = some fragments := by
  induction fragments with
  | nil => rfl
  | cons fragment fragments ih =>
      rw [List.flatMap_cons, List.cons_append, List.singleton_append, Fragment.ofPieces?,
        if_pos rfl, Fragment.of_piece, ih]
      rfl

theorem fragments_of_transcript (report : Report) :
    fragmentsOf? report.transcript = some report.fragments := by
  rw [fragmentsOf?, split_transcript]
  exact of_pieces report.fragments

section Places

def IsTag (tag : Text) : Prop :=
  (∃ kind : FragmentKind, tag = kind.openingTag) ∨ tag = Fragment.closingTag

/-- What is demanded of a character that is not plain: a bracket begins or ends
a tag, and an ampersand begins an entity. -/
structure Placed (before : Text) (c : Char) (after : Text) : Prop where
  begins : c = '<' → ∃ tag, IsTag tag ∧ tag <+: c :: after
  ends : c = '>' → ∃ tag, IsTag tag ∧ tag <:+ before ++ [c]
  names : c = '&' → ∃ entity ∈ Text.entities, entity <+: c :: after

/-- At how many places of a text a part begins. -/
def occurrences (part text : Text) : Nat :=
  text.tails.countP fun rest => part <+: rest

def Marked (text : Text) : Prop :=
  ∀ before c after, text = before ++ c :: after → Placed before c after

variable {before after front back text inner : Text} {c : Char}

theorem Placed.within (placed : Placed before c after) (front back : Text) :
    Placed (front ++ before) c (after ++ back) where
  begins less := by
    obtain ⟨tag, isTag, lead⟩ := placed.begins less
    exact ⟨tag, isTag, lead.trans (List.prefix_append (c :: after) back)⟩
  ends greater := by
    obtain ⟨tag, isTag, tail⟩ := placed.ends greater
    rw [List.append_assoc]
    exact ⟨tag, isTag, tail.trans (List.suffix_append front (before ++ [c]))⟩
  names ampersand := by
    obtain ⟨entity, member, lead⟩ := placed.names ampersand
    exact ⟨entity, member, lead.trans (List.prefix_append (c :: after) back)⟩

theorem placed_of_plain (plain : Text.IsPlain c) : Placed before c after where
  begins less := absurd less plain.1
  ends greater := absurd greater plain.2.1
  names ampersand := absurd ampersand plain.2.2

theorem marked_append (inFront : Marked front) (inBack : Marked back) : Marked (front ++ back) := by
  intro before c after split
  rcases List.append_eq_append_iff.mp split with ⟨more, rfl, behind⟩ | ⟨more, ahead, rest⟩
  · have placed := (inBack more c after behind).within front []
    rwa [List.append_nil] at placed
  · cases more with
    | nil =>
        have placed := (inBack [] c after rest.symm).within before []
        rwa [List.append_nil, List.append_nil] at placed
    | cons d more =>
        obtain ⟨rfl, rfl⟩ := List.cons.inj rest
        exact (inFront before c more ahead).within [] back

theorem marked_plain (plain : ∀ c ∈ text, Text.IsPlain c) : Marked text := by
  intro before c after split
  exact placed_of_plain (plain c (by simp [split]))

theorem marked_tag (tag : IsTag ('<' :: (inner ++ ['>']))) (plain : ∀ c ∈ inner, Text.IsPlain c) :
    Marked ('<' :: (inner ++ ['>'])) := by
  intro before c after split
  cases before with
  | nil =>
      obtain ⟨rfl, rfl⟩ := List.cons.inj split
      exact ⟨fun _ => ⟨_, tag, List.prefix_rfl⟩, by simp, by simp⟩
  | cons first before =>
      obtain ⟨rfl, rest⟩ := List.cons.inj split
      rcases List.eq_nil_or_concat after with rfl | ⟨later, last, rfl⟩
      · obtain ⟨rfl, last⟩ := List.append_inj' rest rfl
        obtain ⟨rfl, -⟩ := List.cons.inj last
        exact ⟨by simp, fun _ => ⟨_, tag, List.suffix_rfl⟩, by simp⟩
      · have whole : inner ++ ['>'] = (before ++ c :: later) ++ [last] := by simpa using rest
        have insides := (List.append_inj' whole rfl).1
        exact placed_of_plain (plain c (by simp [insides]))

theorem marked_opening (kind : FragmentKind) : Marked kind.openingTag := by
  have shape : kind.openingTag =
      '<' :: (("span class=\"".toList ++ (kind.cssClass ++ ['"'])) ++ ['>']) := by
    cases kind <;> rfl
  rw [shape]
  apply marked_tag (Or.inl ⟨kind, shape.symm⟩)
  cases kind <;> decide +kernel

theorem marked_closing : Marked Fragment.closingTag := by
  have tag : IsTag ('<' :: ("/span".toList ++ ['>'])) := Or.inr rfl
  exact marked_tag tag (by decide +kernel)

theorem marked_entity {word : Text} (entity : '&' :: word ∈ Text.entities)
    (plain : ∀ c ∈ word, Text.IsPlain c) : Marked ('&' :: word) := by
  intro before c after split
  cases before with
  | nil =>
      obtain ⟨rfl, rfl⟩ := List.cons.inj split
      exact ⟨by simp, by simp, fun _ => ⟨_, entity, List.prefix_rfl⟩⟩
  | cons first before =>
      obtain ⟨rfl, rest⟩ := List.cons.inj split
      exact placed_of_plain (plain c (by simp [rest]))

theorem marked_flat_map {α : Type} {items : List α} {write : α → Text}
    (each : ∀ item ∈ items, Marked (write item)) : Marked (items.flatMap write) := by
  induction items with
  | nil => exact marked_plain (by simp)
  | cons item items ih =>
      rw [List.flatMap_cons]
      exact marked_append (each item List.mem_cons_self)
        (ih fun other member => each other (List.mem_cons_of_mem item member))

theorem marked_html (text : Text) : Marked (Text.html text) := by
  apply marked_flat_map
  intro c _
  rcases Text.html_char_cases c with ⟨plain, same⟩ | ⟨word, entity, same, plain⟩
  · rw [same]
    exact marked_plain (by simpa using plain)
  · rw [same]
    exact marked_entity entity plain

theorem marked_transcript (report : Report) : Marked report.transcript := by
  apply marked_flat_map
  intro fragment _
  rw [fragment.html_eq]
  exact marked_append (marked_append (marked_opening fragment.kind)
    (marked_append (marked_html fragment.text) marked_closing)) (marked_plain (by decide))

end Places

section Tags

theorem occurrences_cons (part : Text) (c : Char) (text : Text) :
    occurrences part (c :: text) =
      occurrences part text + if part <+: c :: text then 1 else 0 := by
  simp [occurrences, List.countP_cons]

theorem occurrences_behind {c : Char} {part front text : Text} (quiet : c ∉ front) :
    occurrences (c :: part) (front ++ text) = occurrences (c :: part) text := by
  induction front with
  | nil => rfl
  | cons d front ih =>
      have elsewhere : ¬ c :: part <+: d :: (front ++ text) := by
        intro lead
        have same : c = d := (List.cons_prefix_cons.mp lead).1
        exact quiet (by simp [same])
      rw [List.cons_append, occurrences_cons, if_neg elsewhere, Nat.add_zero]
      exact ih fun member => quiet (List.mem_cons_of_mem d member)

/-- Tags begin at the two brackets of a line and behind the line. -/
theorem occurrences_line (part : Text) (markers : List Marker) (fragment : Fragment)
    (fragments : List Fragment) :
    let later := (Report.mk markers fragments).transcript
    occurrences ('<' :: part) (Report.mk markers (fragment :: fragments)).transcript =
      occurrences ('<' :: part) later +
        (if part <+: "/span>\n".toList ++ later then 1 else 0) +
        (if '<' :: part <+: fragment.html ++ '\n' :: later then 1 else 0) := by
  intro later
  have quiet : '<' ∉ "/span>\n".toList := by decide
  rw [transcript_cons, fragment.html_line, occurrences_cons,
    occurrences_behind fragment.no_bracket_in_piece, occurrences_cons, occurrences_behind quiet]
  simp only [List.cons_prefix_cons, true_and, later]

theorem occurrences_opening (kind : FragmentKind) (report : Report) :
    occurrences kind.openingTag report.transcript =
      report.fragments.countP fun fragment => fragment.kind = kind := by
  obtain ⟨markers, fragments⟩ := report
  have shape : kind.openingTag = '<' :: kind.openingTag.tail := by
    cases kind <;> rfl
  induction fragments with
  | nil =>
      rw [shape]
      rfl
  | cons fragment fragments ih =>
      have notClosing (later : Text) : ¬ kind.openingTag.tail <+: "/span>\n".toList ++ later := by
        intro lead
        have first : kind.openingTag.tail.head? = some 's' := by
          cases kind <;> rfl
        obtain ⟨rest, split⟩ := lead
        have heads := congrArg List.head? split
        rw [List.head?_append, first] at heads
        exact absurd (Option.some.inj heads) (by decide)
      have opening (later : Text) : kind.openingTag <+: fragment.html ++ later ↔
          fragment.kind = kind := by
        rw [fragment.html_eq, List.append_assoc, FragmentKind.opening_prefix]
        exact eq_comm
      rw [shape, occurrences_line, ← shape, ih, if_neg (notClosing _)]
      simp only [opening, List.countP_cons, decide_eq_true_eq, Nat.add_zero]

theorem occurrences_closing (report : Report) :
    occurrences Fragment.closingTag report.transcript = report.fragments.length := by
  obtain ⟨markers, fragments⟩ := report
  have shape : Fragment.closingTag = '<' :: "/span>".toList := rfl
  induction fragments with
  | nil =>
      rw [shape]
      rfl
  | cons fragment fragments ih =>
      have closing (later : Text) : "/span>".toList <+: "/span>\n".toList ++ later :=
        ⟨'\n' :: later, rfl⟩
      have notOpening (later : Text) :
          ¬ '<' :: "/span>".toList <+: fragment.html ++ '\n' :: later := by
        rw [fragment.html_line]
        rintro ⟨rest, split⟩
        have seconds := congrArg (fun text => text[1]?) split
        exact absurd (Option.some.inj seconds) (by decide)
      rw [shape, occurrences_line, ← shape, ih, if_pos (closing _), shape, if_neg (notOpening _)]
      rfl

end Tags

/-- A transcript is read back as the fragments it was written from, so they are
all that it depends on. Each bracket in it begins or ends a tag, and each
ampersand begins an entity. A tag opens for each fragment of its kind, and a
tag closes for each fragment; there are no other tags. -/
theorem transcript_loses_nothing (report : Report) :
    fragmentsOf? report.transcript = some report.fragments ∧
    (∀ other : Report, other.transcript = report.transcript →
      other.fragments = report.fragments) ∧
    Marked report.transcript ∧
    (∀ kind : FragmentKind, occurrences kind.openingTag report.transcript =
      report.fragments.countP fun fragment => fragment.kind = kind) ∧
    occurrences Fragment.closingTag report.transcript = report.fragments.length := by
  refine ⟨fragments_of_transcript report, ?_, marked_transcript report, ?_, ?_⟩
  · intro other same
    apply Option.some.inj
    rw [← fragments_of_transcript, same, fragments_of_transcript]
  · exact fun kind => occurrences_opening kind report
  · exact occurrences_closing report

/-- A report of a text that looks like tags and entities. -/
def taggedReport : Report :=
  ⟨[], [⟨.message, "</span>\n&lt;\"".toList⟩, ⟨.caution, []⟩]⟩

theorem tags_in_a_text_are_no_tags :
    fragmentsOf? taggedReport.transcript = some taggedReport.fragments ∧
      (taggedReport.mark [.wholeLine .error 0 []]).transcript = taggedReport.transcript ∧
      (taggedReport.mark [.wholeLine .error 0 []]).fragments = taggedReport.fragments ∧
      occurrences Fragment.closingTag taggedReport.transcript = 2 := by
  obtain ⟨decoded, same, -, -, closings⟩ := transcript_loses_nothing taggedReport
  exact ⟨decoded, rfl, same _ rfl, closings⟩

end Report

end TraceGloss
