import TraceGloss.Text.Json
import TraceGloss.Proofs.Text.Runs
import TraceGloss.Proofs.Text.Places

/-!
# Reading JSON

Readers for the values that this library writes: strings, natural numbers,
lists, and objects whose members come in a fixed order. A reader takes a value
from the front of a text and leaves what follows it. It passes the blanks in
front of the value, so no reader depends on the indented layout; it is only
shown that each gives back what was written in that layout.
-/

namespace TraceGloss.Text

set_option autoImplicit false

/-- Reads a value from the front of a text, if there is one. -/
abbrev JsonReader (α : Type) := StateT Text Option α

/-- The blanks of JSON: those that may stand around values and signs. -/
def isJsonBlank (c : Char) : Bool :=
  c == ' ' || c == '\t' || c == '\n' || c == '\r'

namespace JsonReader

/-- What is written behind a backslash, with the character it stands for. -/
def shortEscapes : List (Char × Char) :=
  [('"', '"'), ('\\', '\\'), ('/', '/'), ('n', '\n'), ('r', '\r'), ('t', '\t'), ('b', '\x08'),
    ('f', '\x0c')]

def hexValue? (c : Char) : Option Nat :=
  (List.range 16).find? fun value => hexDigit value == c

/-- The character of a code in hexadecimal digits. A surrogate is none. -/
def codeChar? (digits : List Char) : Option Char := do
  let values ← digits.mapM hexValue?
  let code := values.foldl (fun code value => 16 * code + value) 0
  if code.isValidChar then return Char.ofNat code else none

def pushChar (c : Char) (found : Text × Text) : Text × Text :=
  (c :: found.1, found.2)

/-- The characters of a string whose opening quote is passed, and what follows
its closing quote. -/
def chars? : Text → Option (Text × Text)
  | [] => none
  | '"' :: rest => some ([], rest)
  | '\\' :: 'u' :: a :: b :: c :: d :: rest =>
      (codeChar? [a, b, c, d]).bind fun char => (chars? rest).map (pushChar char)
  | '\\' :: escape :: rest =>
      (shortEscapes.lookup escape).bind fun char => (chars? rest).map (pushChar char)
  | c :: rest =>
      -- control characters must be escaped
      if c.toNat < 0x20 then none else (chars? rest).map (pushChar c)

def symbol (sign : Char) : JsonReader Unit := fun text =>
  match text.dropWhile isJsonBlank with
  | [] => none
  | c :: rest => if c = sign then some ((), rest) else none

/-- Whether a sign comes next. If so, it is passed. -/
def accepts (sign : Char) : JsonReader Bool := fun text =>
  match text.dropWhile isJsonBlank with
  | [] => some (false, [])
  | c :: rest => some (if c = sign then (true, rest) else (false, c :: rest))

def string : JsonReader Text := fun text =>
  match text.dropWhile isJsonBlank with
  | '"' :: rest => chars? rest
  | _ => none

def number : JsonReader Nat := fun text =>
  let found := text.dropWhile isJsonBlank
  match found.takeWhile isAsciiDigit with
  | [] => none
  | digits => some (numeralValue digits, found.dropWhile isAsciiDigit)

/-- A string that is the name of something. -/
def named {α : Type} (find? : Text → Option α) : JsonReader α := do
  let name ← string
  match find? name with
  | some value => return value
  | none => failure

section Values

variable {α β : Type}

def member (name : Text) (value : JsonReader α) : JsonReader α := do
  let found ← string
  if found = name then
    symbol ':'
    value
  else failure

/-- A member that is not the first. -/
def next (name : Text) (value : JsonReader α) : JsonReader α := do
  symbol ','
  member name value

def object (members : JsonReader α) : JsonReader α := do
  symbol '\x7b'
  let value ← members
  symbol '\x7d'
  return value

/-- The items of a list up to its closing bracket, at most so many. -/
def items (item : JsonReader α) : Nat → JsonReader (List α)
  | 0 => failure
  | most + 1 => do
      let value ← item
      if ← accepts ',' then
        return value :: (← items item most)
      else
        symbol ']'
        return [value]

/-- A list. It has fewer items than there are characters left. -/
def list (item : JsonReader α) : JsonReader (List α) := do
  symbol '['
  if ← accepts ']' then
    return []
  else
    items item (← get).length

/-- The value that a whole text stands for. Only blanks may follow it. -/
def whole? (value : JsonReader α) (text : Text) : Option α := do
  let (found, rest) ← value.run text
  if rest.all isJsonBlank then return found else none

end Values

section Strings

theorem control_code {c : Char} (control : c.toNat < 0x20) :
    codeChar? ['0', '0', hexDigit (c.toNat / 16), hexDigit (c.toNat % 16)] = some c := by
  have all : ∀ code < 0x20,
      codeChar? ['0', '0', hexDigit (code / 16), hexDigit (code % 16)] =
        some (Char.ofNat code) := by
    decide
  rw [all c.toNat control, Char.ofNat_toNat]

/-- The characters that are written with a letter or sign behind a backslash. -/
def shortEscaped : Text := ['"', '\\', '\n', '\r', '\t', '\x08', '\x0c']

theorem json_char_short {c : Char} (short : c ∈ shortEscaped) :
    ∃ pair ∈ shortEscapes, pair.1 ≠ 'u' ∧ shortEscapes.lookup pair.1 = some c ∧
      jsonChar c = ['\\', pair.1] := by
  have all : ∀ c ∈ shortEscaped, ∃ pair ∈ shortEscapes, pair.1 ≠ 'u' ∧
      shortEscapes.lookup pair.1 = some c ∧ jsonChar c = ['\\', pair.1] := by
    decide +kernel
  exact all c short

theorem json_char_long {c : Char} (long : c ∉ shortEscaped) :
    jsonChar c = if c.toNat < 0x20 then
      ['\\', 'u', '0', '0', hexDigit (c.toNat / 16), hexDigit (c.toNat % 16)] else [c] := by
  simp only [shortEscaped, List.mem_cons, List.not_mem_nil, or_false, not_or] at long
  obtain ⟨quote, backslash, newline, carriage, tab, backspace, feed⟩ := long
  rw [jsonChar, if_neg quote, if_neg backslash, if_neg newline, if_neg carriage, if_neg tab,
    if_neg backspace, if_neg feed]
  rfl

theorem chars_short {escape c : Char} (notCode : escape ≠ 'u')
    (known : shortEscapes.lookup escape = some c) (rest : Text) :
    chars? ('\\' :: escape :: rest) = (chars? rest).map (pushChar c) := by
  rw [chars?, known, Option.bind_some]
  -- four digits are only looked for behind a `u`
  intro _ _ _ _ _ code
  exact absurd code notCode

theorem chars_code {a b c d char : Char} (known : codeChar? [a, b, c, d] = some char)
    (rest : Text) :
    chars? ('\\' :: 'u' :: a :: b :: c :: d :: rest) = (chars? rest).map (pushChar char) := by
  rw [chars?, known, Option.bind_some]

theorem chars_plain {c : Char} (printable : ¬ c.toNat < 0x20) (long : c ∉ shortEscaped)
    (rest : Text) : chars? (c :: rest) = (chars? rest).map (pushChar c) := by
  have unquoted : c ≠ '"' := by
    rintro rfl
    exact long (by decide)
  have unescaped : c ≠ '\\' := by
    rintro rfl
    exact long (by decide)
  rw [chars?, if_neg printable] <;> simp [unquoted, unescaped]

theorem chars_char (c : Char) (rest : Text) :
    chars? (jsonChar c ++ rest) = (chars? rest).map (pushChar c) := by
  by_cases short : c ∈ shortEscaped
  · obtain ⟨pair, -, notCode, known, written⟩ := json_char_short short
    rw [written]
    exact chars_short notCode known rest
  · rw [json_char_long short]
    by_cases control : c.toNat < 0x20
    · rw [if_pos control]
      exact chars_code (control_code control) rest
    · rw [if_neg control]
      exact chars_plain control short rest

theorem chars_string (text rest : Text) :
    chars? (text.flatMap jsonChar ++ '"' :: rest) = some (text, rest) := by
  induction text with
  | nil => rfl
  | cons c text ih => rw [List.flatMap_cons, List.append_assoc, chars_char, ih]; rfl

end Strings

section Values

variable {α β : Type} {blanks written rest : Text}

def AllBlank (blanks : Text) : Prop :=
  ∀ c ∈ blanks, isJsonBlank c = true

instance (blanks : Text) : Decidable (AllBlank blanks) :=
  inferInstanceAs (Decidable (∀ c ∈ blanks, _))

/-- What follows does not go on with digits, so that a number ends before it. -/
def Ended (rest : Text) : Prop :=
  ∀ c ∈ rest.head?, isAsciiDigit c = false

/-- A text that a character other than a blank or a sign begins. -/
def BeginsBut (sign : Char) (text : Text) : Prop :=
  ∃ c ∈ text.head?, isJsonBlank c = false ∧ c ≠ sign

theorem BeginsBut.append {sign : Char} {text : Text} (begins : BeginsBut sign text) (rest : Text) :
    BeginsBut sign (text ++ rest) := by
  obtain ⟨c, first, other⟩ := begins
  exact ⟨c, List.mem_head?_append_of_mem_head? first, other⟩

/-- A reader takes a value from the text in which it was written, behind any
blanks. -/
def Reads (reader : JsonReader α) (written : Text) (value : α) : Prop :=
  ∀ blanks rest, AllBlank blanks → Ended rest →
    reader.run (blanks ++ (written ++ rest)) = some (value, rest)

/-- What a reader leaves is read on. -/
theorem run_then {reader : JsonReader α} {more : α → JsonReader β} {text : Text} {value : α}
    (taken : reader.run text = some (value, rest)) :
    (reader >>= more).run text = (more value).run rest := by
  rw [StateT.run_bind, taken]
  rfl

theorem skip_blanks {c : Char} (blank : AllBlank blanks) (solid : isJsonBlank c = false) :
    (blanks ++ c :: rest).dropWhile isJsonBlank = c :: rest :=
  drop_run blank (by simpa using solid)

theorem no_blanks : AllBlank [] := by
  decide

theorem ended_cons {c : Char} (other : isAsciiDigit c = false) (rest : Text) :
    Ended (c :: rest) := by
  intro d first
  rwa [← Option.some.inj first]

theorem margin_blank (depth : Nat) : AllBlank ('\n' :: jsonMargin depth) := by
  intro c member
  rcases List.mem_cons.mp member with rfl | space
  · decide
  · rw [List.eq_of_mem_replicate space]
    decide

theorem symbol_run {sign : Char} (solid : isJsonBlank sign = false) (blank : AllBlank blanks) :
    (symbol sign).run (blanks ++ sign :: rest) = some ((), rest) := by
  change symbol sign _ = _
  rw [symbol, skip_blanks blank solid]
  simp

theorem symbol_next {sign : Char} (solid : isJsonBlank sign = false) (rest : Text) :
    (symbol sign).run (sign :: rest) = some ((), rest) :=
  symbol_run solid no_blanks

theorem accepts_run {sign : Char} (solid : isJsonBlank sign = false) (blank : AllBlank blanks) :
    (accepts sign).run (blanks ++ sign :: rest) = some (true, rest) := by
  change accepts sign _ = _
  rw [accepts, skip_blanks blank solid]
  exact congrArg some (if_pos rfl)

theorem refuses_run {sign : Char} {text : Text} (begins : BeginsBut sign text)
    (blank : AllBlank blanks) : (accepts sign).run (blanks ++ text) = some (false, text) := by
  obtain ⟨c, first, solid, other⟩ := begins
  obtain ⟨more, rfl⟩ := List.head?_eq_some_iff.mp first
  change accepts sign _ = _
  rw [accepts, skip_blanks blank solid]
  exact congrArg some (if_neg other)

theorem string_reads (text : Text) : Reads string (jsonString text) text := by
  intro blanks rest blank _
  change string (blanks ++ '"' :: (text.flatMap jsonChar ++ ['"'] ++ rest)) = _
  rw [string, skip_blanks blank (by decide), List.append_assoc]
  exact chars_string text rest

theorem digit_not_blank {c : Char} (digit : isAsciiDigit c = true) : isJsonBlank c = false := by
  cases blank : isJsonBlank c with
  | false => rfl
  | true =>
      simp only [isJsonBlank, Bool.or_eq_true, beq_iff_eq] at blank
      rcases blank with ((rfl | rfl) | rfl) | rfl <;> exact absurd digit (by decide)

theorem number_reads (n : Nat) : Reads number (numeral n) n := by
  intro blanks rest blank ended
  change number (blanks ++ (numeral n ++ rest)) = _
  have digits := numeral_digits n
  have value := numeral_value_numeral n
  cases written : numeral n with
  | nil => exact absurd written (numeral_ne_nil n)
  | cons digit more =>
      rw [written] at digits value
      have solid := digit_not_blank (digits digit List.mem_cons_self)
      rw [number, List.cons_append, skip_blanks blank solid, ← List.cons_append]
      simp only [take_run digits ended, drop_run digits ended, value]

theorem named_reads {find? : Text → Option α} {name : Text} {value : α}
    (known : find? name = some value) : Reads (named find?) (jsonString name) value := by
  intro blanks rest blank ended
  rw [named, run_then (string_reads name blanks rest blank ended), known]
  rfl

/-- A member as it is written in an object. -/
def entry (name written : Text) : Text :=
  jsonString name ++ ": ".toList ++ written

theorem member_reads (name : Text) {reader : JsonReader α} {value : α}
    (reads : Reads reader written value) :
    Reads (member name reader) (entry name written) value := by
  intro blanks rest blank ended
  have quoted := string_reads name blanks (": ".toList ++ (written ++ rest)) blank
    (ended_cons (by decide) _)
  have colon : (symbol ':').run (": ".toList ++ (written ++ rest)) =
      some ((), [' '] ++ (written ++ rest)) := symbol_run (by decide) no_blanks
  rw [entry, List.append_assoc, List.append_assoc, member, run_then quoted, if_pos rfl,
    run_then colon]
  exact reads [' '] rest (by decide) ended

end Values

section Layout

/-- What follows an item between brackets: the items that are left, each behind
a comma, and the right bracket. -/
def layoutTail (right : Char) (depth : Nat) : List Text → Text
  | [] => '\n' :: (jsonMargin depth ++ [right])
  | item :: items =>
      ',' :: '\n' :: (jsonMargin (depth + 1) ++ (item ++ layoutTail right depth items))

variable {right : Char} {depth : Nat}

theorem intercalated_tail (right : Char) (depth : Nat) (item : Text) (items : List Text) :
    ",\n".toList.intercalate ((item :: items).map (jsonMargin (depth + 1) ++ ·)) ++
        '\n' :: (jsonMargin depth ++ [right]) =
      jsonMargin (depth + 1) ++ (item ++ layoutTail right depth items) := by
  induction items generalizing item with
  | nil => simp [layoutTail]
  | cons other items ih =>
      rw [List.map_cons, List.map_cons, List.intercalate_cons_cons, ← List.map_cons,
        List.append_assoc, List.append_assoc, List.append_assoc, ih other]
      rfl

theorem json_block_cons (left right : Char) (depth : Nat) (item : Text) (items : List Text)
    (rest : Text) :
    jsonBlock left right depth (item :: items) ++ rest =
      left :: (('\n' :: jsonMargin (depth + 1)) ++
        (item ++ (layoutTail right depth items ++ rest))) := by
  have block : jsonBlock left right depth (item :: items) =
      left :: '\n' :: (jsonMargin (depth + 1) ++ (item ++ layoutTail right depth items)) := by
    rw [← intercalated_tail]
    simp [jsonBlock]
  rw [block]
  simp only [List.cons_append, List.append_assoc]

theorem layout_tail_nil (right : Char) (depth : Nat) (rest : Text) :
    layoutTail right depth [] ++ rest = ('\n' :: jsonMargin depth) ++ right :: rest := by
  simp [layoutTail]

theorem layout_tail_cons (right : Char) (depth : Nat) (item : Text) (items : List Text)
    (rest : Text) :
    layoutTail right depth (item :: items) ++ rest =
      ',' :: (('\n' :: jsonMargin (depth + 1)) ++
        (item ++ (layoutTail right depth items ++ rest))) := by
  simp [layoutTail]

theorem layout_tail_ended (right : Char) (depth : Nat) (items : List Text) (rest : Text) :
    Ended (layoutTail right depth items ++ rest) := by
  cases items with
  | nil => exact ended_cons (by decide) _
  | cons item items => exact ended_cons (by decide) _

end Layout

section Objects

variable {α β : Type} {depth : Nat} {written : Text} {entries : List Text}

/-- A reader takes what is left of an object and leaves the bracket that ends it. -/
def ReadsRest (reader : JsonReader α) (depth : Nat) (entries : List Text) (value : α) : Prop :=
  ∀ rest, reader.run (layoutTail '\x7d' depth entries ++ rest) =
    some (value, layoutTail '\x7d' depth [] ++ rest)

theorem reads_no_member (depth : Nat) (value : α) : ReadsRest (pure value) depth [] value := by
  intro rest
  rfl

/-- A first member is read behind any blanks. -/
theorem reads_first_member (name : Text) {reader : JsonReader α} {value : α}
    {more : α → JsonReader β} {whole : β} (reads : Reads reader written value)
    (later : ReadsRest (more value) depth entries whole) (rest : Text) :
    (member name reader >>= more).run (('\n' :: jsonMargin (depth + 1)) ++
        (entry name written ++ (layoutTail '\x7d' depth entries ++ rest))) =
      some (whole, layoutTail '\x7d' depth [] ++ rest) := by
  rw [run_then (member_reads name reads _ _ (margin_blank _) (layout_tail_ended _ _ _ _))]
  exact later rest

theorem reads_next_member {name : Text} {reader : JsonReader α} {value : α}
    {more : α → JsonReader β} {whole : β} (reads : Reads reader written value)
    (later : ReadsRest (more value) depth entries whole) :
    ReadsRest (next name reader >>= more) depth (entry name written :: entries) whole := by
  intro rest
  rw [layout_tail_cons, next, bind_assoc, run_then (symbol_next (by decide) _)]
  exact reads_first_member name reads later rest

theorem object_reads {name : Text} {reader : JsonReader α} {value : α}
    {more : α → JsonReader β} {whole : β} (reads : Reads reader written value)
    (later : ReadsRest (more value) depth entries whole) :
    Reads (object (member name reader >>= more))
      (jsonBlock '\x7b' '\x7d' depth (entry name written :: entries)) whole := by
  intro blanks rest blank ended
  have members := reads_first_member name reads later rest
  have closed : (symbol '\x7d').run (layoutTail '\x7d' depth [] ++ rest) = some ((), rest) := by
    rw [layout_tail_nil]
    exact symbol_run (by decide) (margin_blank depth)
  rw [json_block_cons, object, run_then (symbol_run (by decide) blank),
    run_then members, run_then closed]
  rfl

end Objects

section Lists

variable {α : Type} {depth : Nat} {item : JsonReader α} {write : α → Text}

theorem items_read (each : ∀ value, Reads item (write value) value) (value : α) (values : List α)
    {most : Nat} (enough : values.length < most) {blanks : Text} (blank : AllBlank blanks)
    (rest : Text) :
    (items item most).run
        (blanks ++ (write value ++ (layoutTail ']' depth (values.map write) ++ rest))) =
      some (value :: values, rest) := by
  induction values generalizing value most blanks with
  | nil =>
      obtain ⟨more, rfl⟩ : ∃ more, most = more + 1 := Nat.exists_eq_add_of_le' enough
      have first := each value blanks (layoutTail ']' depth [] ++ rest) blank
        (layout_tail_ended _ _ _ _)
      have noComma : (accepts ',').run (layoutTail ']' depth [] ++ rest) =
          some (false, ']' :: rest) := by
        rw [layout_tail_nil]
        exact refuses_run ⟨']', rfl, by decide, by decide⟩ (margin_blank depth)
      rw [List.map_nil, items, run_then first, run_then noComma, if_neg Bool.false_ne_true,
        run_then (symbol_next (by decide) rest)]
      rfl
  | cons other values ih =>
      obtain ⟨more, rfl⟩ : ∃ more, most = more + 1 :=
        Nat.exists_eq_add_of_le' (Nat.zero_lt_of_lt enough)
      have first := each value blanks (layoutTail ']' depth ((other :: values).map write) ++ rest)
        blank (layout_tail_ended _ _ _ _)
      have later := ih other (Nat.lt_of_succ_lt_succ enough) (margin_blank (depth + 1))
      have comma : (accepts ',').run (layoutTail ']' depth ((other :: values).map write) ++ rest) =
          some (true, ('\n' :: jsonMargin (depth + 1)) ++
            (write other ++ (layoutTail ']' depth (values.map write) ++ rest))) := by
        rw [List.map_cons, layout_tail_cons]
        exact accepts_run (by decide) no_blanks
      rw [items, run_then first, run_then comma, if_pos rfl, run_then later]
      rfl

theorem layout_tail_length (right : Char) (depth : Nat) (items : List Text) :
    items.length < (layoutTail right depth items).length := by
  induction items with
  | nil => simp [layoutTail]
  | cons item items ih =>
      simp only [layoutTail, List.length_cons, List.length_append]
      omega

/-- There are more characters than items, so a list is read to its end. -/
theorem fits (value : α) (values : List α) (rest : Text) :
    values.length < (write value ++ (layoutTail ']' depth (values.map write) ++ rest)).length := by
  have longer := layout_tail_length ']' depth (values.map write)
  simp only [List.length_map, List.length_append] at longer ⊢
  omega

theorem list_reads (each : ∀ value, Reads item (write value) value)
    (begins : ∀ value, BeginsBut ']' (write value)) (values : List α) :
    Reads (list item) (jsonList depth (values.map write)) values := by
  intro blanks rest blank ended
  cases values with
  | nil =>
      have opened : (symbol '[').run (blanks ++ (jsonList depth [] ++ rest)) =
          some ((), ']' :: rest) := symbol_run (by decide) blank
      have closed : (accepts ']').run (']' :: rest) = some (true, rest) :=
        accepts_run (by decide) no_blanks
      rw [List.map_nil, list, run_then opened, run_then closed]
      rfl
  | cons value values =>
      have opened : (symbol '[').run
          (blanks ++ (jsonList depth ((value :: values).map write) ++ rest)) =
          some ((), ('\n' :: jsonMargin (depth + 1)) ++
            (write value ++ (layoutTail ']' depth (values.map write) ++ rest))) := by
        rw [List.map_cons, jsonList, json_block_cons]
        exact symbol_run (by decide) blank
      have notClosed := refuses_run
        ((begins value).append (layoutTail ']' depth (values.map write) ++ rest))
        (margin_blank (depth + 1))
      rw [list, run_then opened, run_then notClosed, if_neg Bool.false_ne_true]
      exact items_read each value values (fits value values rest) no_blanks rest

end Lists

section Whole

variable {α : Type} {reader : JsonReader α} {written : Text} {value : α}

theorem blanks_ended {blanks : Text} (blank : AllBlank blanks) : Ended blanks := by
  intro c first
  cases digit : isAsciiDigit c with
  | false => rfl
  | true =>
      have here := blank c (List.mem_of_mem_head? first)
      rw [digit_not_blank digit] at here
      exact absurd here Bool.false_ne_true

theorem whole_of_reads (reads : Reads reader written value) {blanks : Text}
    (blank : AllBlank blanks) : whole? reader (written ++ blanks) = some value := by
  have all : blanks.all isJsonBlank = true := by simpa [AllBlank] using blank
  have found : reader.run (written ++ blanks) = some (value, blanks) :=
    reads [] blanks no_blanks (blanks_ended blank)
  rw [whole?, found]
  exact if_pos all

end Whole

end JsonReader

end TraceGloss.Text
