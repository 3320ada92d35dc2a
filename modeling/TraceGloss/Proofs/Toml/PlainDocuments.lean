import TraceGloss.Proofs.Text.Runs
import TraceGloss.Toml.Document

/-!
# Plain documents

A plain document has sections with a header each, and in a section a line for
every value: a bare key, an equals sign, and a text between single quotes or a
truth value. It is read as the tables that it writes, each with its values in
their order. A line with a bare key alone is no line of a document, and it
spoils every document that it stands in, whatever follows.
-/

namespace TraceGloss.Toml

set_option autoImplicit false

inductive Plain where
  | text (text : Text)
  | flag (value : Bool)

namespace Plain

def written : Plain → Text
  | .text content => '\'' :: (content ++ ['\''])
  | .flag true => "true".toList
  | .flag false => "false".toList

def value : Plain → Value
  | .text content => .string content
  | .flag value => .boolean value

/-- Between single quotes all printed characters may stand but the quote. -/
def Fits : Plain → Prop
  | .text content => ∀ c ∈ content, isPrinted c = true ∧ c ≠ '\''
  | .flag _ => True

instance : (plain : Plain) → Decidable plain.Fits
  | .text content =>
      inferInstanceAs (Decidable (∀ c ∈ content, isPrinted c = true ∧ c ≠ '\''))
  | .flag _ => inferInstanceAs (Decidable True)

end Plain

structure Section where
  name : Text
  entries : List (Text × Plain)

def assignment (entry : Text × Plain) : Text :=
  entry.1 ++ " = ".toList ++ entry.2.written ++ ['\n']

def Section.written (part : Section) : Text :=
  '[' :: (part.name ++ [']', '\n']) ++ part.entries.flatMap assignment

/-- The values that a section writes, in their order. -/
def plainTable (entries : List (Text × Plain)) : Table :=
  entries.map fun entry => (entry.1, entry.2.value)

def plainTables (parts : List Section) : Table :=
  parts.map fun part => (part.name, .table .header (plainTable part.entries))

def BareKey (key : Text) : Prop :=
  key ≠ [] ∧ ∀ c ∈ key, isBare c = true

instance (key : Text) : Decidable (BareKey key) :=
  inferInstanceAs (Decidable (key ≠ [] ∧ ∀ c ∈ key, isBare c = true))

structure Section.Fits (part : Section) : Prop where
  name : BareKey part.name
  keys : ∀ entry ∈ part.entries, BareKey entry.1
  values : ∀ entry ∈ part.entries, entry.2.Fits
  distinct : (part.entries.map (·.1)).Nodup

/-- Sections that can be written one below the other. -/
structure PlainFits (parts : List Section) : Prop where
  each : ∀ part ∈ parts, part.Fits
  distinct : (parts.map (·.name)).Nodup

section Keys

variable {key behind : Text} {c d : Char}

theorem bare_ne (bare : isBare c = true) (other : isBare d = false) : c ≠ d := by
  rintro rfl
  exact Bool.false_ne_true (other.symm.trans bare)

theorem bare_begins (bare : BareKey key) (other : isBare d = false) {rest : Text} :
    key ++ behind ≠ d :: rest := by
  intro same
  cases key with
  | nil => exact bare.1 rfl
  | cons c key => exact bare_ne (bare.2 c List.mem_cons_self) other (List.cons.inj same).1

theorem key_of_bare (bare : BareKey key) (ends : ∀ c ∈ behind.head?, isBare c = false) :
    key? (key ++ behind) = some (key, behind) := by
  obtain ⟨nonempty, within⟩ := bare
  have taken := Text.take_run within ends
  have left := Text.drop_run within ends
  cases key with
  | nil => exact absurd rfl nonempty
  | cons c key =>
      have first := within c List.mem_cons_self
      have unquoted : shortString? (c :: key ++ behind) = none := by
        have double : c ≠ '"' := bare_ne first (by decide)
        have single : c ≠ '\'' := bare_ne first (by decide)
        rw [List.cons_append, shortString?]
        · exact fun rest same => double (List.cons.inj same).1
        · exact fun rest same => single (List.cons.inj same).1
      rw [key?, unquoted, taken, left]

/-- A bare key in front of what is no part of a dotted key. -/
theorem dotted_key_of_bare (bare : BareKey key) (ends : ∀ c ∈ behind.head?, isBare c = false)
    (alone : (skipIndent behind).head? ≠ some '.') :
    dottedKey? (key ++ behind) = some (⟨[], key, key ++ behind, behind⟩, skipIndent behind) := by
  have depth : maxDepth = 79 + 1 := rfl
  rw [dottedKey?, depth, keysAfter?, key_of_bare bare ends]
  simp only [Option.bind_eq_bind, Option.bind_some]
  split
  · next more point => simp [point] at alone
  · rfl

end Keys

section Values

variable {key content rest : Text} {entry : Text × Plain} {before done : Table}
variable {fuel valueFuel : Nat}

theorem literal_rest (fits : ∀ c ∈ content, isPrinted c = true ∧ c ≠ '\'') (rest : Text) :
    literalRest (content ++ '\'' :: rest) = some (content, rest) := by
  induction content with
  | nil => rfl
  | cons c content ih =>
      obtain ⟨printed, unquoted⟩ := fits c List.mem_cons_self
      have later := ih fun d member => fits d (List.mem_cons_of_mem c member)
      rw [List.cons_append, literalRest, if_neg unquoted, if_pos printed, later]
      rfl

/-- A text between single quotes, which are not three in a row. -/
theorem string_of_literal (fits : ∀ c ∈ content, isPrinted c = true ∧ c ≠ '\'') (rest : Text) :
    string? ('\'' :: (content ++ '\'' :: '\n' :: rest)) = some (content, '\n' :: rest) := by
  have short : string? ('\'' :: (content ++ '\'' :: '\n' :: rest)) =
      shortString? ('\'' :: (content ++ '\'' :: '\n' :: rest)) := by
    cases content with
    | nil => rfl
    | cons c content =>
        have unquoted := (fits c List.mem_cons_self).2
        rw [List.cons_append, string?]
        · intro following same
          exact absurd (List.cons.inj same).1 (by decide)
        · intro following same
          exact unquoted (List.cons.inj (List.cons.inj same).2).1
  rw [short]
  exact literal_rest fits ('\n' :: rest)

theorem word_of_flag (value : Bool) (rest : Text) :
    word? ((Plain.flag value).written ++ '\n' :: rest) = some (.boolean value, '\n' :: rest) := by
  cases value with
  | true =>
      have split : splitWord false ("true".toList ++ '\n' :: rest) =
          ("true".toList, '\n' :: rest) := by
        rfl
      rw [word?, Plain.written, split]
      rfl
  | false =>
      have split : splitWord false ("false".toList ++ '\n' :: rest) =
          ("false".toList, '\n' :: rest) := by
        rfl
      rw [word?, Plain.written, split]
      rfl

/-- What begins like a bare key is a word, if it is a value. -/
theorem value_of_word {c : Char} (bare : isBare c = true) (depth : Nat) (rest : Text) :
    readValue (fuel + 1) depth (c :: rest) = orMalformed (word? (c :: rest)) := by
  rw [readValue]
  all_goals
    intros
    rename_i same
    exact absurd (List.cons.inj same).1 (bare_ne bare (by decide))

theorem value_of_plain {plain : Plain} (fits : plain.Fits) (depth : Nat) (rest : Text) :
    readValue (fuel + 1) (depth + 1) (plain.written ++ '\n' :: rest) =
      .ok (plain.value, '\n' :: rest) := by
  cases plain with
  | text content =>
      have read := string_of_literal fits rest
      have split : (Plain.text content).written ++ '\n' :: rest =
          '\'' :: (content ++ '\'' :: '\n' :: rest) := by
        simp [Plain.written]
      rw [split, readValue, read]
      rfl
  | flag value =>
      have read := word_of_flag value rest
      obtain ⟨c, more, split, bare⟩ : ∃ c more, (Plain.flag value).written = c :: more ∧
          isBare c = true := by
        cases value with
        | true => exact ⟨'t', "rue".toList, rfl, by decide⟩
        | false => exact ⟨'f', "alse".toList, rfl, by decide⟩
      rw [split, List.cons_append] at read ⊢
      rw [value_of_word bare, read]
      rfl

end Values

section Lines

variable {name key rest : Text} {entry : Text × Plain} {before done : Table}
variable {fuel valueFuel : Nat} {c : Char}

theorem skip_all_of_mark (shown : Text.isIndent c = false) (notReturn : c ≠ '\r')
    (notNewline : c ≠ '\n') (notComment : c ≠ '#') (rest : Text) :
    skipAll (c :: rest) = c :: rest := by
  rw [skipAll, skipFrom]
  · simp [shown, notNewline, notComment]
  · intro _ same
    exact absurd same notReturn

theorem skip_all_of_bare (bare : BareKey key) (rest : Text) :
    skipAll (key ++ rest) = key ++ rest := by
  cases key with
  | nil => exact absurd rfl bare.1
  | cons c key =>
      have first := bare.2 c List.mem_cons_self
      have space : c ≠ ' ' := bare_ne first (by decide)
      have tab : c ≠ '\t' := bare_ne first (by decide)
      exact skip_all_of_mark (by simp [Text.isIndent, space, tab]) (bare_ne first (by decide))
        (bare_ne first (by decide)) (bare_ne first (by decide)) (key ++ rest)

theorem skip_indent_of_bare (bare : BareKey key) (rest : Text) :
    skipIndent (key ++ rest) = key ++ rest := by
  cases key with
  | nil => exact absurd rfl bare.1
  | cons c key =>
      have first := bare.2 c List.mem_cons_self
      have space : c ≠ ' ' := bare_ne first (by decide)
      have tab : c ≠ '\t' := bare_ne first (by decide)
      exact List.dropWhile_cons_of_neg (by simp [Text.isIndent, space, tab])

theorem header_of_section (valueFuel : Nat) (document : Document) {root : Table}
    (bare : BareKey name) (opened : document.root.openTable [] name = .ok root) (rest : Text) :
    document.line valueFuel ('[' :: (name ++ ']' :: rest)) = .ok (⟨root, [name]⟩, rest) := by
  have named : dottedKey? (skipIndent (name ++ ']' :: rest)) =
      some (⟨[], name, name ++ ']' :: rest, ']' :: rest⟩, ']' :: rest) := by
    rw [skip_indent_of_bare bare]
    have marked : (skipIndent (']' :: rest)).head? = some ']' := rfl
    exact dotted_key_of_bare bare (by simp; decide) (by rw [marked]; decide)
  rw [Document.line, Document.header, named]
  · simp only [opened]
    rfl
  · exact fun text => bare_begins bare (by decide)

theorem line_of_assignment (valueFuel : Nat) (document : Document) (bare : BareKey entry.1)
    (fits : entry.2.Fits) (rest : Text) :
    ∃ key : DottedKey, key.way = [] ∧ key.last = entry.1 ∧
      document.line (valueFuel + 1) (assignment entry ++ rest) =
        (document.assign key entry.2.value).map (·, '\n' :: rest) := by
  let behind : Text := ' ' :: '=' :: ' ' :: (entry.2.written ++ '\n' :: rest)
  have split : assignment entry ++ rest = entry.1 ++ behind := by
    simp [assignment, behind]
  have equals : skipIndent behind = '=' :: ' ' :: (entry.2.written ++ '\n' :: rest) := rfl
  have named : dottedKey? (entry.1 ++ behind) = some (⟨[], entry.1, entry.1 ++ behind, behind⟩,
      '=' :: ' ' :: (entry.2.written ++ '\n' :: rest)) := by
    rw [← equals]
    exact dotted_key_of_bare bare (by simp [behind]; decide) (by rw [equals]; simp)
  have written : skipIndent (' ' :: (entry.2.written ++ '\n' :: rest)) =
      entry.2.written ++ '\n' :: rest := by
    rw [skipIndent, List.dropWhile_cons_of_pos rfl]
    cases entry.2 with
    | text content => rfl
    | flag value => cases value <;> rfl
  have assigned : readAssignment (valueFuel + 1) (entry.1 ++ behind) =
      .ok (⟨[], entry.1, entry.1 ++ behind, behind⟩, entry.2.value, '\n' :: rest) := by
    rw [readAssignment, named]
    simp only
    rw [written, maxDepth, value_of_plain fits 79 rest]
    rfl
  refine ⟨⟨[], entry.1, entry.1 ++ behind, behind⟩, rfl, rfl, ?_⟩
  rw [split, Document.line]
  · rw [assigned]
    simp only [bind, Except.bind]
    cases document.assign ⟨[], entry.1, entry.1 ++ behind, behind⟩ entry.2.value <;> rfl
  · exact fun text => bare_begins bare (by decide)

theorem open_section (bare : done.lookup name = none) :
    Table.openTable [] name done = .ok (done ++ [(name, .table .header [])]) := by
  rw [Table.openTable, Table.within, bare]
  rfl

theorem replace_last (apart : done.lookup name = none) (value other : Value) :
    Table.replace (done ++ [(name, value)]) name other = done ++ [(name, other)] := by
  have kept : Table.replace done name other = done := by
    refine (List.map_congr_left fun entry member => ?_).trans (List.map_id done)
    have different := List.lookup_eq_none_iff.mp apart entry member
    have unequal : entry.1 ≠ name := fun same => by simp [same] at different
    rw [if_neg unequal]
    rfl
  rw [Table.replace, List.map_append, ← Table.replace, kept]
  simp

theorem assign_in_section (key : DottedKey) (value : Value) (plain : key.way = [])
    (apart : done.lookup name = none) (fresh : before.lookup key.last = none) :
    Document.assign ⟨done ++ [(name, .table .header before)], [name]⟩ key value =
      .ok ⟨done ++ [(name, .table .header (before ++ [(key.last, value)]))], [name]⟩ := by
  have found : (done ++ [(name, Value.table .header before)]).lookup name =
      some (.table .header before) := by
    rw [List.lookup_append, apart]
    simp
  have added : Table.put key.way key.last value .header before =
      .ok (.header, before ++ [(key.last, value)]) := by
    rw [plain, Table.put, Table.within, if_neg (by simp), Table.add, fresh]
    rfl
  rw [Document.assign, Table.within, found]
  simp only
  rw [if_neg (by simp), Table.within, if_neg (by simp), added]
  have replaced := replace_last apart (.table .header before)
    (.table .header (before ++ [(key.last, value)]))
  exact congrArg (fun root => Except.ok (Document.mk root [name])) replaced

end Lines

section Documents

variable {parts : List Section} {entries : List (Text × Plain)} {name rest : Text}
variable {done before : Table} {fuel valueFuel : Nat}

/-- A line is read, and what stands behind its end is read on. -/
theorem read_line {document next : Document} {text rest more : Text} (shown : skipAll text = text)
    (nonempty : text ≠ []) (line : document.line valueFuel text = .ok (next, rest))
    (ended : lineEnd? rest = some more) :
    Document.readLines valueFuel (fuel + 1) document text =
      Document.readLines valueFuel fuel next more := by
  rw [Document.readLines, shown]
  cases text with
  | nil => exact absurd rfl nonempty
  | cons c text => simp only [line, ended]

theorem read_assignments (apart : done.lookup name = none)
    (keys : ∀ entry ∈ entries, BareKey entry.1) (values : ∀ entry ∈ entries, entry.2.Fits)
    (distinct : (entries.map (·.1)).Nodup)
    (fresh : ∀ entry ∈ entries, before.lookup entry.1 = none) (fuel : Nat) (rest : Text) :
    Document.readLines (valueFuel + 1) (entries.length + fuel)
        ⟨done ++ [(name, .table .header before)], [name]⟩ (entries.flatMap assignment ++ rest) =
      Document.readLines (valueFuel + 1) fuel
        ⟨done ++ [(name, .table .header (before ++ plainTable entries))], [name]⟩ rest := by
  induction entries generalizing before with
  | nil => simp [plainTable]
  | cons entry entries ih =>
      have bare := keys entry List.mem_cons_self
      obtain ⟨alone, others⟩ := List.nodup_cons.mp distinct
      obtain ⟨key, plain, last, line⟩ := line_of_assignment valueFuel
        ⟨done ++ [(name, .table .header before)], [name]⟩ bare (values entry List.mem_cons_self)
        (entries.flatMap assignment ++ rest)
      have unused := fresh entry List.mem_cons_self
      rw [assign_in_section key entry.2.value plain apart (last ▸ unused), last] at line
      have count : (entry :: entries).length + fuel = entries.length + fuel + 1 := by
        rw [List.length_cons]
        omega
      have begun : assignment entry ++ (entries.flatMap assignment ++ rest) =
          entry.1 ++ (" = ".toList ++ entry.2.written ++ ['\n'] ++
            (entries.flatMap assignment ++ rest)) := by
        simp [assignment]
      rw [List.flatMap_cons, List.append_assoc, count,
        read_line (by rw [begun]; exact skip_all_of_bare bare _) (by simp [assignment]) line rfl,
        ih (fun other member => keys other (List.mem_cons_of_mem entry member))
          (fun other member => values other (List.mem_cons_of_mem entry member)) others]
      · simp [plainTable]
      · intro other member
        have different : (other.1 == entry.1) = false :=
          beq_false_of_ne fun same => alone (List.mem_map.mpr ⟨other, member, same⟩)
        rw [List.lookup_append, fresh other (List.mem_cons_of_mem entry member)]
        simp [List.lookup_cons, different]

/-- Lines of plain sections. -/
def lineCount : List Section → Nat
  | [] => 0
  | part :: parts => part.entries.length + 1 + lineCount parts

theorem read_sections (valueFuel : Nat) {early : List Section} (each : ∀ part ∈ parts, part.Fits)
    (distinct : ((early ++ parts).map (·.name)).Nodup) (current : List Text) (fuel : Nat)
    (rest : Text) :
    ∃ current', Document.readLines (valueFuel + 1) (lineCount parts + fuel)
        ⟨plainTables early, current⟩ (parts.flatMap Section.written ++ rest) =
      Document.readLines (valueFuel + 1) fuel ⟨plainTables (early ++ parts), current'⟩ rest := by
  induction parts generalizing early current with
  | nil => exact ⟨current, by simp [lineCount]⟩
  | cons part parts ih =>
      have fits := each part List.mem_cons_self
      have apart : (plainTables early).lookup part.name = none := by
        refine List.lookup_eq_none_iff.mpr fun entry member => ?_
        obtain ⟨other, before, rfl⟩ := List.mem_map.mp member
        rw [List.map_append, List.nodup_append] at distinct
        have different := distinct.2.2 other.name (List.mem_map_of_mem before) part.name
          (List.mem_map_of_mem List.mem_cons_self)
        simpa using fun same => different same.symm
      have header := header_of_section (valueFuel + 1) ⟨plainTables early, current⟩ fits.name
        (open_section apart)
        ('\n' :: (part.entries.flatMap assignment ++ (parts.flatMap Section.written ++ rest)))
      have text : (part :: parts).flatMap Section.written ++ rest =
          '[' :: (part.name ++ ']' :: '\n' :: (part.entries.flatMap assignment ++
            (parts.flatMap Section.written ++ rest))) := by
        simp [Section.written]
      have count : lineCount (part :: parts) + fuel =
          part.entries.length + (lineCount parts + fuel) + 1 := by
        rw [lineCount]
        omega
      rw [List.append_cons] at distinct
      obtain ⟨later, read⟩ := ih (fun other member => each other (List.mem_cons_of_mem part member))
        distinct [part.name]
      refine ⟨later, ?_⟩
      rw [text, count,
        read_line (skip_all_of_mark (by decide) (by decide) (by decide) (by decide) _)
          (List.cons_ne_nil _ _) header rfl,
        read_assignments apart fits.keys fits.values fits.distinct fun entry _ => List.lookup_nil]
      have tables : plainTables (early ++ [part]) =
          plainTables early ++ [(part.name, .table .header ([] ++ plainTable part.entries))] := by
        simp [plainTables]
      rw [← tables]
      simpa using read

theorem line_count_le (parts : List Section) :
    lineCount parts ≤ (parts.flatMap Section.written).length := by
  have entryCount (entries : List (Text × Plain)) :
      entries.length ≤ (entries.flatMap assignment).length := by
    induction entries with
    | nil => exact Nat.zero_le _
    | cons entry entries ih =>
        rw [List.flatMap_cons, List.length_append, assignment]
        simp only [List.length_append, List.length_cons, List.length_nil]
        omega
  induction parts with
  | nil => exact Nat.le_refl _
  | cons part parts ih =>
      have entries := entryCount part.entries
      rw [List.flatMap_cons, List.length_append, Section.written]
      simp only [lineCount, List.length_append, List.length_cons]
      omega

/-- A plain document in front of a text that a byte order mark does not begin. -/
theorem read_front (fits : PlainFits parts) (rest : Text) (unmarked : rest.head? ≠ some '\ufeff') :
    ∃ valueFuel fuel current,
      read (parts.flatMap Section.written ++ rest) =
        (Document.readLines (valueFuel + 1) (fuel + 1) ⟨plainTables parts, current⟩ rest).map
          (·.root) := by
  obtain ⟨extra, room⟩ := Nat.exists_eq_add_of_le (line_count_le parts)
  have noMark : Text.after? ['\ufeff'] (parts.flatMap Section.written ++ rest) = none := by
    cases parts with
    | nil =>
        cases rest with
        | nil => rfl
        | cons c rest =>
            have other : '\ufeff' ≠ c := fun same => unmarked (by rw [← same]; rfl)
            simp [Text.after?, other]
    | cons part parts =>
        simp [Section.written, Text.after?]
  have length : (parts.flatMap Section.written ++ rest).length + 1 =
      lineCount parts + (extra + rest.length + 1) := by
    rw [List.length_append, room]
    omega
  let valueFuel := 2 * (parts.flatMap Section.written ++ rest).length + 1
  have distinct : ((([] : List Section) ++ parts).map (·.name)).Nodup := fits.distinct
  obtain ⟨current, lines⟩ := read_sections valueFuel fits.each distinct []
    (extra + rest.length + 1) rest
  refine ⟨valueFuel, extra + rest.length, current, ?_⟩
  rw [read, noMark, Option.getD_none, length]
  exact congrArg (Except.map (·.root)) lines

/-- A plain document is read as the tables that it writes. -/
theorem read_plain (fits : PlainFits parts) :
    read (parts.flatMap Section.written) = .ok (plainTables parts) := by
  obtain ⟨valueFuel, fuel, current, front⟩ := read_front fits [] (by simp)
  rw [List.append_nil] at front
  rw [front, Document.readLines]
  rfl

/-- A line with a bare key alone spoils a document, whatever follows. -/
theorem read_bare_line (fits : PlainFits parts) {key : Text} (bare : BareKey key) (more : Text) :
    read (parts.flatMap Section.written ++ (key ++ '\n' :: more)) = .error .malformed := by
  have unmarked : (key ++ '\n' :: more).head? ≠ some '\ufeff' := by
    intro marked
    obtain ⟨rest, same⟩ := List.head?_eq_some_iff.mp marked
    exact bare_begins bare (by decide) same
  obtain ⟨valueFuel, fuel, current, front⟩ := read_front fits _ unmarked
  have named : dottedKey? (key ++ '\n' :: more) =
      some (⟨[], key, key ++ '\n' :: more, '\n' :: more⟩, '\n' :: more) := by
    have ended : (skipIndent ('\n' :: more)).head? = some '\n' := rfl
    exact dotted_key_of_bare bare (by simp; decide) (by rw [ended]; decide)
  have unassigned : readAssignment (valueFuel + 1) (key ++ '\n' :: more) = .error .malformed := by
    rw [readAssignment, named]
    rfl
  have spoilt : Document.line (valueFuel + 1) ⟨plainTables parts, current⟩ (key ++ '\n' :: more) =
      .error .malformed := by
    rw [Document.line, unassigned]
    · rfl
    · exact fun text => bare_begins bare (by decide)
  rw [front, Document.readLines, skip_all_of_bare bare]
  cases text : key ++ '\n' :: more with
  | nil => simp at text
  | cons c rest =>
      rw [text] at spoilt
      simp only [spoilt]
      rfl

end Documents

end TraceGloss.Toml
