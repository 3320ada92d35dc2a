import TraceGloss.Explanation.Reply
import TraceGloss.Proofs.Text.Places
import TraceGloss.Proofs.Text.Runs

/-!
# Lists of names in quotes

The interpreter lists names in quotes, two of them with `and` between them, more
with commas and a comma and `and` in front of the last. No name has a blank, so
the first `and` between blanks is the one of the list, whatever the names are.
Once it is a comma and the quotes are gone, all names stand between commas as
they are.
-/

namespace TraceGloss

set_option autoImplicit false

namespace Text

variable {part text front rest new : Text}

/-- A part with a blank among its first two characters is not where none is. -/
theorem after_none_of_solid (early : ' ' ∈ part.take 2) (solid : ' ' ∉ text.take 2) :
    after? part text = none := by
  by_contra found
  obtain ⟨rest, split⟩ := Option.ne_none_iff_exists'.mp found
  apply solid
  rw [after_eq_some_iff.mp split, List.take_append]
  exact List.mem_append_left _ early

theorem replace_first_here (nonempty : part ≠ []) :
    replaceFirst part new (part ++ rest) = new ++ rest := by
  cases part with
  | nil => exact absurd rfl nonempty
  | cons c part =>
      have here := after_append (c :: part) rest
      rw [List.cons_append] at here ⊢
      rw [replaceFirst, here]

theorem replace_first_later {c : Char} (notHere : after? part (c :: rest) = none) :
    replaceFirst part new (c :: rest) = c :: replaceFirst part new rest := by
  rw [replaceFirst, notHere]

theorem replace_first_behind_solid {c : Char} (early : ' ' ∈ part.take 2) (solid : ' ' ∉ front)
    (visible : c ≠ ' ') :
    replaceFirst part new (front ++ c :: rest) = front ++ replaceFirst part new (c :: rest) := by
  induction front with
  | nil => rfl
  | cons d front ih =>
      -- of the two characters here, the second may be the one behind the front
      have ahead : ' ' ∉ (d :: (front ++ c :: rest)).take 2 := by
        cases front with
        | nil => simpa [visible.symm] using solid
        | cons e front =>
            intro member
            have inFront : ' ' ∈ (d :: e :: front).take 2 := by simpa using member
            exact solid (List.mem_of_mem_take inFront)
      rw [List.cons_append, replace_first_later (after_none_of_solid early ahead),
        ih fun member => solid (List.mem_cons_of_mem d member)]
      rfl

end Text

open Text

def inQuotes (name : Text) : Text :=
  '\'' :: name ++ ['\'']

/-- Names in quotes and between commas, the last behind an `and`. -/
def serially : List Text → Text
  | [] => []
  | [last] => "and ".toList ++ inQuotes last
  | name :: others => inQuotes name ++ ", ".toList ++ serially others

/-- Names in quotes as the interpreter lists them. -/
def listed : List Text → Text
  | [] => []
  | [name] => inQuotes name
  | [first, second] => inQuotes first ++ " and ".toList ++ inQuotes second
  | names => serially names

/-- A name that leaves a list of names readable. -/
def Listable (name : Text) : Prop :=
  '\'' ∉ name ∧ ∀ c ∈ name, isBlank c = false

instance (name : Text) : Decidable (Listable name) :=
  inferInstanceAs (Decidable (_ ∧ _))

theorem Listable.free_of_blank {name : Text} {c : Char} (listable : Listable name)
    (blank : isBlank c = true) : c ∉ name := by
  intro member
  rw [listable.2 c member] at blank
  exact Bool.false_ne_true blank

/-- A part with a blank at its beginning that is not where a name in quotes is,
nor at a comma or a blank in front of one. -/
structure Conjunction (part : Text) : Prop where
  early : ' ' ∈ part.take 2
  notAtQuote : ∀ rest, after? part ('\'' :: rest) = none
  notAtComma : ∀ rest, after? part (',' :: ' ' :: '\'' :: rest) = none
  notAtBlank : ∀ rest, after? part (' ' :: '\'' :: rest) = none

theorem and_is_conjunction : Conjunction " and ".toList :=
  ⟨by decide, fun _ => rfl, fun _ => rfl, fun _ => rfl⟩

theorem comma_and_is_conjunction : Conjunction ", and ".toList :=
  ⟨by decide, fun _ => rfl, fun _ => rfl, fun _ => rfl⟩

/-- A name behind another and a comma. -/
def further (name : Text) : Text :=
  ", ".toList ++ inQuotes name

namespace Conjunction

variable {part new name : Text} {names : List Text}

theorem behind_name (conjunction : Conjunction part) (listable : Listable name) (rest : Text) :
    replaceFirst part new (inQuotes name ++ rest) =
      inQuotes name ++ replaceFirst part new rest := by
  have solid : ' ' ∉ '\'' :: name := by simpa using listable.free_of_blank (by decide)
  have split (rest : Text) : inQuotes name ++ rest = ('\'' :: name) ++ '\'' :: rest := by
    simp [inQuotes]
  rw [split, replace_first_behind_solid conjunction.early solid (by decide),
    replace_first_later (conjunction.notAtQuote rest), split]

theorem behind_further_name (conjunction : Conjunction part) (listable : Listable name)
    (rest : Text) :
    replaceFirst part new (further name ++ rest) = further name ++ replaceFirst part new rest := by
  have split (rest : Text) : further name ++ rest = ',' :: ' ' :: (inQuotes name ++ rest) := rfl
  have quoted : inQuotes name ++ rest = '\'' :: (name ++ '\'' :: rest) := by simp [inQuotes]
  have notAtComma : after? part (',' :: ' ' :: (inQuotes name ++ rest)) = none := by
    rw [quoted]
    exact conjunction.notAtComma _
  have notAtBlank : after? part (' ' :: (inQuotes name ++ rest)) = none := by
    rw [quoted]
    exact conjunction.notAtBlank _
  rw [split, replace_first_later notAtComma, replace_first_later notAtBlank,
    conjunction.behind_name listable, split]

theorem behind_further_names (conjunction : Conjunction part)
    (listable : ∀ name ∈ names, Listable name) (rest : Text) :
    replaceFirst part new (names.flatMap further ++ rest) =
      names.flatMap further ++ replaceFirst part new rest := by
  induction names with
  | nil => rfl
  | cons name names ih =>
      obtain ⟨here, later⟩ := List.forall_mem_cons.mp listable
      rw [List.flatMap_cons, List.append_assoc, conjunction.behind_further_name here, ih later,
        List.append_assoc]

theorem not_at_end (conjunction : Conjunction part) : replaceFirst part new [] = [] := by
  have nonempty : part ≠ [] := by
    rintro rfl
    simpa using conjunction.early
  rw [replaceFirst, if_neg nonempty]

theorem not_in_commas (conjunction : Conjunction part) (here : Listable name)
    (later : ∀ name ∈ names, Listable name) :
    replaceFirst part new (inQuotes name ++ names.flatMap further) =
      inQuotes name ++ names.flatMap further := by
  have whole : replaceFirst part new (names.flatMap further ++ []) = _ :=
    conjunction.behind_further_names later []
  rw [conjunction.not_at_end, List.append_nil] at whole
  rw [conjunction.behind_name here, whole]

end Conjunction

section Rewriting

variable {name : Text} {names : List Text}

/-- The replaced conjunction is the one in front of the last name. -/
theorem commas_of_serially (listable : ∀ other ∈ name :: names, Listable other) :
    replaceFirst ", and ".toList ", ".toList (", ".toList ++ serially (name :: names)) =
      (name :: names).flatMap further := by
  induction names generalizing name with
  | nil =>
      have last : ", ".toList ++ serially [name] = ", and ".toList ++ inQuotes name := rfl
      rw [last, replace_first_here (by decide)]
      simp [further]
  | cons next names ih =>
      obtain ⟨here, later⟩ := List.forall_mem_cons.mp listable
      have split : ", ".toList ++ serially (name :: next :: names) =
          further name ++ (", ".toList ++ serially (next :: names)) := by
        simp only [serially, further, List.append_assoc]
      rw [split, comma_and_is_conjunction.behind_further_name here, ih later]
      rfl

theorem commas_of_listed (listable : ∀ other ∈ name :: names, Listable other) :
    replaceFirst " and ".toList ", ".toList
        (replaceFirst ", and ".toList ", ".toList (listed (name :: names))) =
      inQuotes name ++ names.flatMap further := by
  obtain ⟨here, later⟩ := List.forall_mem_cons.mp listable
  match names, later with
  | [], later =>
      have alone : listed [name] = inQuotes name ++ [].flatMap further := by simp [listed]
      rw [alone, comma_and_is_conjunction.not_in_commas here later,
        and_is_conjunction.not_in_commas here later]
  | [second], later =>
      -- the conjunction of two names has no comma and is left to the other replacement
      have noComma : replaceFirst ", and ".toList ", ".toList (" and ".toList ++ inQuotes second) =
          " and ".toList ++ replaceFirst ", and ".toList ", ".toList (inQuotes second) := rfl
      have last : replaceFirst ", and ".toList ", ".toList (inQuotes second ++ [].flatMap further) =
          inQuotes second ++ [].flatMap further :=
        comma_and_is_conjunction.not_in_commas (later second (by simp)) (by simp)
      rw [List.flatMap_nil, List.append_nil] at last
      rw [listed, List.append_assoc, comma_and_is_conjunction.behind_name here, noComma, last,
        and_is_conjunction.behind_name here, replace_first_here (by decide)]
      simp [further]
  | second :: third :: names, later =>
      have split : listed (name :: second :: third :: names) =
          inQuotes name ++ (", ".toList ++ serially (second :: third :: names)) := by
        simp only [listed, serially, List.append_assoc]
      rw [split, comma_and_is_conjunction.behind_name here, commas_of_serially later,
        and_is_conjunction.not_in_commas here later]

theorem unquoted_name (listable : Listable name) :
    (inQuotes name).filter (· != '\'') = name := by
  have kept : name.filter (· != '\'') = name :=
    List.filter_eq_self.mpr (differ_of_not_mem listable.1)
  simp [inQuotes, kept]

theorem unquoted_commas (listable : ∀ other ∈ name :: names, Listable other) :
    (inQuotes name ++ names.flatMap further).filter (· != '\'') =
      List.intercalate ", ".toList (name :: names) := by
  induction names generalizing name with
  | nil => simp [unquoted_name (listable name (by simp))]
  | cons next names ih =>
      obtain ⟨here, later⟩ := List.forall_mem_cons.mp listable
      have split : inQuotes name ++ (next :: names).flatMap further =
          inQuotes name ++ (", ".toList ++ (inQuotes next ++ names.flatMap further)) := by
        simp [further]
      have comma : (", ".toList).filter (· != '\'') = ", ".toList := rfl
      rw [split, List.filter_append, List.filter_append, unquoted_name here, comma, ih later,
        List.intercalate_cons_cons, List.append_assoc]

/-- Taking away the conjunction and the quotes leaves all names as they are. -/
theorem plain_arguments_listed (listable : ∀ other ∈ names, Listable other) :
    plainArguments (listed names) = List.intercalate ", ".toList names := by
  cases names with
  | nil => rfl
  | cons name names => rw [plainArguments, commas_of_listed listable, unquoted_commas listable]

end Rewriting

section OneLine

variable {name : Text} {names : List Text}

theorem in_quotes_on_line (listable : Listable name) : '\n' ∉ inQuotes name := by
  simpa [inQuotes] using listable.free_of_blank (by decide)

theorem serially_on_line (listable : ∀ other ∈ name :: names, Listable other) :
    ∃ front, '\n' ∉ front ∧ serially (name :: names) = front ++ ['\''] := by
  induction names generalizing name with
  | nil =>
      have quiet : '\n' ∉ name := (listable name (by simp)).free_of_blank (by decide)
      exact ⟨"and ".toList ++ '\'' :: name, by simpa using quiet, by simp [serially, inQuotes]⟩
  | cons next names ih =>
      obtain ⟨here, later⟩ := List.forall_mem_cons.mp listable
      obtain ⟨front, quiet, split⟩ := ih later
      refine ⟨inQuotes name ++ ", ".toList ++ front, ?_, ?_⟩
      · simpa [in_quotes_on_line here] using quiet
      · simp only [serially, split, List.append_assoc]

/-- A list is one line that ends in a quote. -/
theorem listed_on_line (nonempty : names ≠ []) (listable : ∀ other ∈ names, Listable other) :
    ∃ front, '\n' ∉ front ∧ listed names = front ++ ['\''] := by
  match names, nonempty, listable with
  | [name], _, listable =>
      have quiet : '\n' ∉ name := (listable name (by simp)).free_of_blank (by decide)
      exact ⟨'\'' :: name, by simpa using quiet, rfl⟩
  | [name, second], _, listable =>
      have here := in_quotes_on_line (listable name (by simp))
      have quiet : '\n' ∉ second := (listable second (by simp)).free_of_blank (by decide)
      refine ⟨inQuotes name ++ " and ".toList ++ '\'' :: second, ?_, ?_⟩
      · simpa [here] using quiet
      · simp [listed, inQuotes]
  | name :: second :: third :: names, _, listable => exact serially_on_line listable

end OneLine

end TraceGloss
