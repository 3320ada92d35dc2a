import TraceGloss.Proofs.CommandLine.Spellings

/-!
# Wordings of a command line

Options are put into words part by part: each option with a value, the traceback
and the flag, in any order and any spelling. What has its standard value may be
left out. Whatever the wording, reading the words gives the options back.

The texts must be taken for what they are wherever they stand: the traceback is a
hyphen or does not begin with one, and a value begins with neither a hyphen nor an
equals sign. At every place of such a command line what is known is a function of
the parts in front of it.
-/

namespace TraceGloss.CommandLine

set_option autoImplicit false

inductive Part where
  | traceback
  | option (name : OptionName)
  | lint
  deriving DecidableEq, Repr

namespace Options

/-- The value of an option, which some options have without being told. -/
def value? (options : Options) : OptionName → Option Text
  | .source => options.source
  | .format => some options.format.name
  | .output => options.output
  | .config => options.config
  | .logLevel => some options.logLevel

/-- The words that tell one part of the options. -/
inductive Tells (options : Options) : Part → List Text → Prop where
  | traceback : Tells options .traceback [options.traceback]
  | option {name : OptionName} {value : Text} {words : List Text}
      (has : options.value? name = some value) (spelled : Spelled name value words) :
      Tells options (.option name) words
  | lint (asked : options.lint = true) : Tells options .lint ["--lint".toList]

/-- Whether two options hold the same in a part. -/
def SamePart (options other : Options) : Part → Prop
  | .traceback => options.traceback = other.traceback
  | .option name => options.value? name = other.value? name
  | .lint => options.lint = other.lint

instance (options other : Options) (part : Part) : Decidable (options.SamePart other part) :=
  match part with
  | .traceback => inferInstanceAs (Decidable (options.traceback = other.traceback))
  | .option name => inferInstanceAs (Decidable (options.value? name = other.value? name))
  | .lint => inferInstanceAs (Decidable (options.lint = other.lint))

/-- Parts with their words. Each part is told at most once, and only what has its
standard value is left out. -/
structure Wording (options : Options) where
  parts : List (Part × List Text)
  tells : ∀ entry ∈ parts, options.Tells entry.1 entry.2
  once : (parts.map Prod.fst).Nodup
  complete : ∀ part, part ∈ parts.map Prod.fst ∨ options.SamePart {} part

def Wording.words {options : Options} (wording : options.Wording) : List Text :=
  wording.parts.flatMap Prod.snd

/-- All texts of the options are taken for what they are wherever they stand. -/
structure Plain (options : Options) : Prop where
  traceback : PlainWord options.traceback
  source : ∀ value ∈ options.source, PlainValue value
  output : ∀ value ∈ options.output, PlainValue value
  config : ∀ value ∈ options.config, PlainValue value
  logLevel : PlainValue options.logLevel

end Options

/-- What is known behind these parts of a wording. -/
def Given.behind (options : Options) (parts : List Part) : Given where
  traceback := if .traceback ∈ parts then some options.traceback else none
  source := if .option .source ∈ parts then options.source else none
  format := if .option .format ∈ parts then some options.format else none
  output := if .option .output ∈ parts then options.output else none
  config := if .option .config ∈ parts then options.config else none
  lint := if .lint ∈ parts then options.lint else false
  logLevel := if .option .logLevel ∈ parts then some options.logLevel else none

variable {options : Options} {name : OptionName} {value : Text} {words : List Text} {part : Part}
  {done : List Part}

theorem Format.of_name_name (format : Format) : Format.ofName? format.name = some format := by
  cases format <;> decide

theorem Options.SamePart.symm {other : Options} (same : options.SamePart other part) :
    other.SamePart options part := by
  cases part <;> exact Eq.symm same

theorem Options.SamePart.trans {middle other : Options} (same : options.SamePart middle part)
    (further : middle.SamePart other part) : options.SamePart other part := by
  cases part <;> exact Eq.trans same further

/-- The parts of some options are all that they hold. -/
theorem Options.eq_of_parts {other : Options} (same : ∀ part, options.SamePart other part) :
    options = other := by
  have formats : options.format = other.format := by
    have names := congrArg Format.ofName? (Option.some.inj (same (.option .format)))
    simpa [Format.of_name_name] using names
  have levels : options.logLevel = other.logLevel := Option.some.inj (same (.option .logLevel))
  cases options
  cases other
  rw [mk.injEq]
  exact ⟨same .traceback, same (.option .source), formats, same (.option .output),
    same (.option .config), same .lint, levels⟩

theorem Options.Plain.plainValue (plain : options.Plain) (has : options.value? name = some value) :
    PlainValue value := by
  cases name with
  | source => exact plain.source value has
  | format =>
      obtain rfl := Option.some.inj has
      cases options.format <;> exact ⟨by decide, by decide, by decide⟩
  | output => exact plain.output value has
  | config => exact plain.config value has
  | logLevel =>
      obtain rfl := Option.some.inj has
      exact plain.logLevel

namespace Given

theorem behind_nothing (options : Options) : behind options [] = {} := by
  simp [behind]

theorem add_option_behind (fresh : .option name ∉ done)
    (has : options.value? name = some value) :
    (behind options done).addOption name value =
      .ok (behind options (done ++ [.option name])) := by
  cases name with
  | format =>
      obtain rfl := Option.some.inj has
      simp [addOption, behind, fresh, Format.of_name_name]
  | logLevel =>
      obtain rfl := Option.some.inj has
      simp [addOption, behind, fresh]
  | _ =>
      have told := has
      simp only [Options.value?] at told
      simp [addOption, behind, fresh, told]

/-- One part, in whatever state what stands in front of it has left the reader. -/
theorem reads_part (plain : options.Plain) (tells : options.Tells part words)
    (fresh : part ∉ done) :
    Reads words (behind options done) (behind options (done ++ [part])) := by
  cases tells with
  | traceback =>
      have next : behind options (done ++ [.traceback]) =
          { behind options done with traceback := some options.traceback } := by
        simp [behind]
      rw [next]
      exact reads_plain plain.traceback (if_neg fresh)
  | option has spelled =>
      exact reads_spelled spelled (plain.plainValue has) (add_option_behind fresh has)
  | lint asked =>
      have next : behind options (done ++ [.lint]) = { behind options done with lint := true } := by
        simp [behind, asked]
      rw [next]
      exact reads_lint (if_neg fresh)

theorem reads_parts (plain : options.Plain) (parts : List (Part × List Text))
    (tells : ∀ entry ∈ parts, options.Tells entry.1 entry.2)
    (once : (done ++ parts.map Prod.fst).Nodup) :
    Reads (parts.flatMap Prod.snd) (behind options done)
      (behind options (done ++ parts.map Prod.fst)) := by
  induction parts generalizing done with
  | nil =>
      rw [List.map_nil, List.append_nil]
      exact reads_nil _
  | cons entry parts ih =>
      rw [List.map_cons] at once
      have fresh : entry.1 ∉ done := by
        intro again
        exact (List.nodup_append.mp once).2.2 _ again _ List.mem_cons_self rfl
      have first := reads_part plain (tells entry List.mem_cons_self) fresh
      have others := fun later member => tells later (List.mem_cons_of_mem entry member)
      rw [List.append_cons] at once
      rw [List.flatMap_cons, List.map_cons, List.append_cons]
      exact first.append (ih others once)

theorem told_behind (told : part ∈ done) :
    (behind options done).options.SamePart options part := by
  cases part with
  | traceback => simp [Options.SamePart, Given.options, behind, told]
  | option name =>
      cases name <;> simp [Options.SamePart, Options.value?, Given.options, behind, told]
  | lint => simp [Options.SamePart, Given.options, behind, told]

theorem untold_behind (untold : part ∉ done) :
    (behind options done).options.SamePart {} part := by
  cases part with
  | traceback => simp [Options.SamePart, Given.options, behind, untold]
  | option name =>
      cases name <;> simp [Options.SamePart, Options.value?, Given.options, behind, untold]
  | lint => simp [Options.SamePart, Given.options, behind, untold]

/-- What was left out is as the standard has it. -/
theorem options_behind (complete : ∀ part, part ∈ done ∨ options.SamePart {} part) :
    (behind options done).options = options := by
  apply Options.eq_of_parts
  intro part
  by_cases told : part ∈ done
  · exact told_behind told
  · have standard := (complete part).resolve_left told
    exact (untold_behind told).trans standard.symm

end Given

/-- Options are read from every wording of them, and a part that has its standard
value counts the same whether it is told or left out. -/
theorem Options.every_wording_reads_back (plain : options.Plain) (wording : options.Wording) :
    Options.read wording.words = .ok options := by
  have reads := Given.reads_parts plain wording.parts wording.tells
    (by rw [List.nil_append]; exact wording.once)
  rw [Given.behind_nothing, List.nil_append] at reads
  have read := reads.read
  rwa [Given.options_behind wording.complete] at read

/-- Values that name other options, and the traceback where it could be a value. -/
theorem Options.entangled_wording_reads_back :
    let options : Options :=
      { source := some "lint".toList, format := .json, output := some "a=-b".toList, lint := true,
        logLevel := "s".toList }
    options.Plain ∧ ∃ wording : options.Wording,
      wording.words = ["-fjson".toList, "--source".toList, "lint".toList, "-".toList,
        "--lint".toList, "-o=a=-b".toList, "--log-level=s".toList] ∧
      Options.read wording.words = .ok options := by
  intro options
  have plain : options.Plain :=
    { traceback := Or.inl rfl
      source := by rintro value ⟨⟩; exact ⟨by decide, by decide, by decide⟩
      output := by rintro value ⟨⟩; exact ⟨by decide, by decide, by decide⟩
      config := by rintro value ⟨⟩
      logLevel := ⟨by decide, by decide, by decide⟩ }
  let wording : options.Wording :=
    { parts :=
        [(.option .format, ["-fjson".toList]),
          (.option .source, ["--source".toList, "lint".toList]),
          (.traceback, ["-".toList]), (.lint, ["--lint".toList]),
          (.option .output, ["-o=a=-b".toList]), (.option .logLevel, ["--log-level=s".toList])]
      tells := by
        simp only [List.forall_mem_cons]
        exact ⟨.option rfl (.shortJoined rfl), .option rfl .long, .traceback, .lint rfl,
          .option rfl (.shortAssigned rfl), .option rfl .longAssigned, by simp⟩
      once := by decide
      complete := by
        rintro (_ | ⟨_ | _⟩ | _) <;> decide }
  exact ⟨plain, wording, rfl, every_wording_reads_back plain wording⟩

end TraceGloss.CommandLine
