import TraceGloss.Proofs.Toml.PlainDocuments
import TraceGloss.Settings

/-!
# Settings of plain documents

A plain document gives each setting that it names, if the value is of the right
type; a setting that it does not name has its standard value, and what it holds
besides is dropped. A value of the wrong type spoils it. So settings that can be
written are read back, and no settings are read from a text with a line that is
no line of a document.
-/

namespace TraceGloss.Settings

set_option autoImplicit false

open Toml

/-- What a plain document gives under a key of a section. -/
def given (parts : List Section) (name key : Text) : Option Plain :=
  (parts.find? fun part => name == part.name).bind fun part => part.entries.lookup key

/-- A text that is given, or the standard one if none is. -/
inductive GivesText (standard : Text) : Option Plain → Text → Prop where
  | unnamed : GivesText standard none standard
  | named (text : Text) : GivesText standard (some (.text text)) text

/-- A truth value that is given, or the standard one if none is. -/
inductive GivesFlag (standard : Bool) : Option Plain → Bool → Prop where
  | unnamed : GivesFlag standard none standard
  | named (value : Bool) : GivesFlag standard (some (.flag value)) value

/-- The settings of a plain document. -/
structure OfPlain (parts : List Section) (settings : Settings) : Prop where
  liveBuffer : GivesText Presenter.standard.liveBuffer (given parts presenterKey liveBufferKey)
    settings.presenter.liveBuffer
  snippetIndent : GivesText Presenter.standard.snippetIndent
    (given parts presenterKey snippetIndentKey) settings.presenter.snippetIndent
  fullWidth : GivesFlag true (given parts lintKey fullWidthKey) settings.fullWidth

/-- Settings as a plain document. -/
def parts (settings : Settings) : List Section :=
  [⟨presenterKey, [(liveBufferKey, .text settings.presenter.liveBuffer),
      (snippetIndentKey, .text settings.presenter.snippetIndent)]⟩,
    ⟨lintKey, [(fullWidthKey, .flag settings.fullWidth)]⟩]

def written (settings : Settings) : Text :=
  settings.parts.flatMap Section.written

section Range

theorem entries_in_range {entries : List (Text × Value)}
    (each : ∀ entry ∈ entries, entry.2.inRange = true) : entriesInRange entries = true := by
  induction entries with
  | nil => rw [entriesInRange]
  | cons entry entries ih =>
      rw [entriesInRange, each entry List.mem_cons_self,
        ih fun other member => each other (List.mem_cons_of_mem entry member)]
      rfl

theorem droppable_of_range (names : List Text) {entries : Toml.Table}
    (each : ∀ entry ∈ entries, entry.2.inRange = true) : droppable names entries = true :=
  entries_in_range fun entry member => each entry (List.mem_of_mem_filter member)

theorem plain_in_range (plain : Plain) : plain.value.inRange = true := by
  cases plain with
  | text content => rw [Plain.value, Value.inRange]
  | flag value => rw [Plain.value, Value.inRange]

theorem table_in_range (entries : List (Text × Plain)) :
    ∀ entry ∈ plainTable entries, entry.2.inRange = true := by
  intro entry member
  obtain ⟨written, -, rfl⟩ := List.mem_map.mp member
  exact plain_in_range written.2

theorem tables_in_range (parts : List Section) :
    ∀ entry ∈ plainTables parts, entry.2.inRange = true := by
  intro entry member
  obtain ⟨part, -, rfl⟩ := List.mem_map.mp member
  rw [Value.inRange]
  exact entries_in_range (table_in_range part.entries)

end Range

section Sections

variable {parts : List Section} {settings : Settings}

theorem lookup_plain_table (entries : List (Text × Plain)) (key : Text) :
    (plainTable entries).lookup key = (entries.lookup key).map Plain.value := by
  induction entries with
  | nil => rfl
  | cons entry entries ih =>
      rw [plainTable, List.map_cons, List.lookup_cons, List.lookup_cons, ← plainTable, ih]
      cases key == entry.1 <;> rfl

theorem lookup_plain_tables (parts : List Section) (name : Text) :
    (plainTables parts).lookup name =
      (parts.find? fun part => name == part.name).map fun part =>
        .table .header (plainTable part.entries) := by
  induction parts with
  | nil => rfl
  | cons part parts ih =>
      rw [plainTables, List.map_cons, List.lookup_cons, List.find?_cons, ← plainTables, ih]
      cases name == part.name <;> rfl

theorem section_of_plain (names : List Text) (parts : List Section) (name : Text) :
    Settings.section? names ((plainTables parts).lookup name) =
      some fun key => (given parts name key).map Plain.value := by
  rw [lookup_plain_tables]
  unfold given
  cases parts.find? fun part => name == part.name with
  | none => rfl
  | some part =>
      rw [Option.map_some, section?, if_pos (droppable_of_range names (table_in_range _))]
      congr 1
      funext key
      exact lookup_plain_table part.entries key

theorem text_eq_some_iff {standard text : Text} {plain : Option Plain} :
    text? standard (plain.map Plain.value) = some text ↔ GivesText standard plain text := by
  constructor
  · intro found
    cases plain with
    | none =>
        obtain rfl := Option.some.inj found
        exact .unnamed
    | some plain =>
        cases plain with
        | text content =>
            obtain rfl := Option.some.inj found
            exact .named content
        | flag value => cases found
  · rintro (_ | text)
    · rfl
    · rfl

theorem flag_eq_some_iff {standard value : Bool} {plain : Option Plain} :
    flag? standard (plain.map Plain.value) = some value ↔ GivesFlag standard plain value := by
  constructor
  · intro found
    cases plain with
    | none =>
        obtain rfl := Option.some.inj found
        exact .unnamed
    | some plain =>
        cases plain with
        | text content => cases found
        | flag given =>
            obtain rfl := Option.some.inj found
            exact .named given
  · rintro (_ | value)
    · rfl
    · rfl

theorem of_table_plain (parts : List Section) :
    ofTable? (plainTables parts) = some settings ↔ OfPlain parts settings := by
  rw [ofTable?, if_pos (droppable_of_range _ (tables_in_range parts)), section_of_plain,
    section_of_plain]
  simp only [Option.bind_eq_bind, Option.bind_some, Option.bind_eq_some_iff, text_eq_some_iff,
    flag_eq_some_iff, pure, Option.some.injEq]
  constructor
  · rintro ⟨liveBuffer, live, snippetIndent, indent, fullWidth, flag, rfl⟩
    exact ⟨live, indent, flag⟩
  · intro plain
    exact ⟨_, plain.liveBuffer, _, plain.snippetIndent, _, plain.fullWidth, rfl⟩

theorem read_of_plain (fits : PlainFits parts) :
    read (parts.flatMap Section.written) =
      (ofTable? (plainTables parts)).elim (.error .value) .ok := by
  have document : (Toml.read (parts.flatMap Section.written)).mapError Unreadable.document =
      .ok (plainTables parts) := by
    rw [read_plain fits]
    rfl
  rw [read, document]
  simp only [bind, Except.bind]
  cases ofTable? (plainTables parts) <;> rfl

/-- A plain document is read as the settings that it gives. -/
theorem read_plain_iff (fits : PlainFits parts) :
    read (parts.flatMap Section.written) = .ok settings ↔ OfPlain parts settings := by
  rw [← of_table_plain, read_of_plain fits]
  cases ofTable? (plainTables parts) <;> simp

/-- A plain document with a value of the wrong type gives no settings. -/
theorem read_plain_spoilt (fits : PlainFits parts) (spoilt : ∀ settings, ¬ OfPlain parts settings) :
    read (parts.flatMap Section.written) = .error .value := by
  rw [read_of_plain fits]
  cases found : ofTable? (plainTables parts) with
  | none => rfl
  | some settings => exact absurd ((of_table_plain parts).mp found) (spoilt settings)

/-- A line with a bare key alone leaves no settings, whatever follows. -/
theorem read_spoilt_line (fits : PlainFits parts) {key : Text} (bare : BareKey key) (more : Text) :
    read (parts.flatMap Section.written ++ (key ++ '\n' :: more)) =
      .error (.document .malformed) := by
  rw [read, read_bare_line fits bare more]
  rfl

end Sections

section Written

variable {settings : Settings}

theorem keys_are_bare : BareKey presenterKey ∧ BareKey lintKey ∧ BareKey liveBufferKey ∧
    BareKey snippetIndentKey ∧ BareKey fullWidthKey := by
  decide +kernel

theorem parts_fit (liveBuffer : (Plain.text settings.presenter.liveBuffer).Fits)
    (snippetIndent : (Plain.text settings.presenter.snippetIndent).Fits) :
    PlainFits settings.parts := by
  obtain ⟨presenterBare, lintBare, liveBufferBare, snippetIndentBare, fullWidthBare⟩ :=
    keys_are_bare
  have presenter : Section.Fits ⟨presenterKey,
      [(liveBufferKey, .text settings.presenter.liveBuffer),
        (snippetIndentKey, .text settings.presenter.snippetIndent)]⟩ := by
    refine ⟨presenterBare, ?_, ?_, ?_⟩
    · exact List.forall_mem_cons.mpr ⟨liveBufferBare, List.forall_mem_cons.mpr
        ⟨snippetIndentBare, List.forall_mem_nil _⟩⟩
    · exact List.forall_mem_cons.mpr ⟨liveBuffer, List.forall_mem_cons.mpr
        ⟨snippetIndent, List.forall_mem_nil _⟩⟩
    · change [liveBufferKey, snippetIndentKey].Nodup
      decide +kernel
  have lint : Section.Fits ⟨lintKey, [(fullWidthKey, .flag settings.fullWidth)]⟩ := by
    refine ⟨lintBare, ?_, ?_, ?_⟩
    · exact List.forall_mem_cons.mpr ⟨fullWidthBare, List.forall_mem_nil _⟩
    · exact List.forall_mem_cons.mpr ⟨trivial, List.forall_mem_nil _⟩
    · change [fullWidthKey].Nodup
      decide +kernel
  constructor
  · exact List.forall_mem_cons.mpr ⟨presenter, List.forall_mem_cons.mpr
      ⟨lint, List.forall_mem_nil _⟩⟩
  · change [presenterKey, lintKey].Nodup
    decide +kernel

theorem of_parts (settings : Settings) : OfPlain settings.parts settings := by
  have indentApart : (snippetIndentKey == liveBufferKey) = false := by decide +kernel
  have lintApart : (lintKey == presenterKey) = false := by decide +kernel
  have liveBuffer : given settings.parts presenterKey liveBufferKey =
      some (.text settings.presenter.liveBuffer) := by
    simp [given, parts]
  have snippetIndent : given settings.parts presenterKey snippetIndentKey =
      some (.text settings.presenter.snippetIndent) := by
    simp [given, parts, List.lookup_cons, indentApart]
  have fullWidth : given settings.parts lintKey fullWidthKey = some (.flag settings.fullWidth) := by
    simp [given, parts, lintApart]
  exact ⟨liveBuffer ▸ .named _, snippetIndent ▸ .named _, fullWidth ▸ .named _⟩

/-- Settings whose texts can stand between single quotes are read back. -/
theorem read_written (liveBuffer : (Plain.text settings.presenter.liveBuffer).Fits)
    (snippetIndent : (Plain.text settings.presenter.snippetIndent).Fits) :
    read settings.written = .ok settings :=
  (read_plain_iff (parts_fit liveBuffer snippetIndent)).mpr (of_parts settings)

example : standard.written =
    ("[presenter]\nlive_buffer = '<exec>'\nsnippet_indent = '    '\n" ++
      "[lint]\nfull_width = true\n").toList := by
  decide +kernel

end Written

end TraceGloss.Settings
