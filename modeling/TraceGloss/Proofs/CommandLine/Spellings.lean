import TraceGloss.CommandLine.Options
import TraceGloss.Proofs.Text.Runs

/-!
# Spellings of an option

An option with a value is spelled with its name or its letter, and the value is a
word of its own or stands in the same word. However it is spelled, reading it adds
the value to what is known and leaves the words behind it to be read.

A value in a word of its own is added only when the next word is read. So what is
known at some place of a command line is what the reader would settle there.
-/

namespace TraceGloss.CommandLine

set_option autoImplicit false

/-- A text that is taken as a value wherever it stands. -/
structure PlainValue (text : Text) : Prop where
  nonempty : text ≠ []
  noHyphen : text.head? ≠ some '-'
  noEquals : text.head? ≠ some '='

/-- A text that is taken as the traceback. -/
def PlainWord (text : Text) : Prop :=
  text = ['-'] ∨ (text ≠ [] ∧ text.head? ≠ some '-')

/-- The words that give an option its value. -/
inductive Spelled (name : OptionName) (value : Text) : List Text → Prop where
  | long : Spelled name value ["--".toList ++ name.long, value]
  | longAssigned : Spelled name value ["--".toList ++ name.long ++ '=' :: value]
  | short {letter : Char} (has : name.letter? = some letter) :
      Spelled name value [['-', letter], value]
  | shortJoined {letter : Char} (has : name.letter? = some letter) :
      Spelled name value ['-' :: letter :: value]
  | shortAssigned {letter : Char} (has : name.letter? = some letter) :
      Spelled name value ['-' :: letter :: '=' :: value]

variable {name : OptionName} {letter : Char} {value text : Text} {words rest : List Text}
  {given known more : Given} {pending : Given.Pending}

theorem PlainValue.plainWord (plain : PlainValue text) : PlainWord text :=
  Or.inr ⟨plain.nonempty, plain.noHyphen⟩

namespace Word

theorem of_text_plain (plain : PlainWord text) : ofText text = .plain text := by
  rcases plain with rfl | ⟨-, noHyphen⟩
  · rfl
  · unfold ofText
    split <;> simp_all

theorem of_text_lint : ofText "--lint".toList = .flag .lint := by
  decide

/-- A long name reaches to the end of its word or to an equals sign. -/
theorem of_text_long (name : OptionName) {rest : Text} (ended : ∀ c ∈ rest.head?, c = '=') :
    ofText ("--".toList ++ name.long ++ rest) = .option name (assigned? rest) := by
  have noEquals : '=' ∉ name.long := by cases name <;> decide
  have within := Text.differ_of_not_mem noEquals
  have stops : ∀ c ∈ rest.head?, (c != '=') = false := by simpa using ended
  have noFlag : Flag.all.find? (fun flag => flag.long? = some name.long) = none := by
    cases name <;> decide
  have found : OptionName.all.find? (fun option => option.long = name.long) = some name := by
    cases name <;> decide
  have body : ofText ("--".toList ++ name.long ++ rest) = ofLong (name.long ++ rest) := by
    cases name <;> rfl
  rw [body, ofLong, Text.take_run within stops, Text.drop_run within stops, noFlag, found]

/-- A letter takes all of its word that follows as the value. -/
theorem of_text_short (has : name.letter? = some letter) (rest : Text) :
    ofText ('-' :: letter :: rest) =
      .option name (if rest.isEmpty then none else some ((assigned? rest).getD rest)) := by
  cases name with
  | logLevel => simp [OptionName.letter?] at has
  | _ =>
      obtain rfl := Option.some.inj has
      rfl

theorem assigned_plain (plain : PlainValue value) : assigned? value = none := by
  unfold assigned?
  split
  · exact absurd rfl plain.noEquals
  · rfl

end Word

namespace Given

/-- Whatever stands in front of the words and behind them, they lead the reader from
what is known to what is known then. -/
def Reads (words : List Text) (known more : Given) : Prop :=
  ∀ (given : Given) (pending : Pending) (rest : List Text), given.settle pending = .ok known →
    ∃ (next : Given) (waiting : Pending),
      given.add pending (words ++ rest) = next.add waiting rest ∧ next.settle waiting = .ok more

theorem reads_nil (known : Given) : Reads [] known known :=
  fun given pending _ settled => ⟨given, pending, rfl, settled⟩

theorem Reads.append {others : List Text} {middle : Given} (first : Reads words known middle)
    (second : Reads others middle more) : Reads (words ++ others) known more := by
  intro given pending rest settled
  obtain ⟨between, waiting, begun, settledThen⟩ := first given pending (others ++ rest) settled
  obtain ⟨next, waitingLast, done, settledLast⟩ := second between waiting rest settledThen
  refine ⟨next, waitingLast, ?_, settledLast⟩
  rw [List.append_assoc, begun, done]

theorem Reads.read (reads : Reads words {} more) : Options.read words = .ok more.options := by
  obtain ⟨next, waiting, added, settled⟩ := reads {} none [] rfl
  rw [List.append_nil] at added
  rw [Options.read, added, add, settled]
  rfl

/-- A word that is taken at once leaves nothing pending. -/
theorem reads_word {word : Text}
    (taken : ∀ (given : Given) (pending : Pending) (rest : List Text),
      given.settle pending = .ok known → given.add pending (word :: rest) = more.add none rest) :
    Reads [word] known more :=
  fun given pending rest settled => ⟨more, none, taken given pending rest settled, rfl⟩

/-- The value is a word of its own. -/
theorem reads_apart {word : Text} (introduces : Word.ofText word = .option name none)
    (plain : PlainValue value) (added : known.addOption name value = .ok more) :
    Reads [word, value] known more := by
  intro given pending rest settled
  refine ⟨known, some (name, some value), ?_, added⟩
  change given.add pending (word :: value :: rest) = _
  rw [add, introduces, settled]
  change known.add (some (name, none)) (value :: rest) = _
  rw [add, Word.of_text_plain plain.plainWord]

/-- The value is in the word of the option. -/
theorem reads_joined {word : Text} (gives : Word.ofText word = .option name (some value))
    (added : known.addOption name value = .ok more) : Reads [word] known more := by
  apply reads_word
  intro given pending rest settled
  rw [add, gives, settled]
  change (known.addOption name value).bind _ = _
  rw [added]
  rfl

theorem reads_spelled (spelled : Spelled name value words) (plain : PlainValue value)
    (added : known.addOption name value = .ok more) : Reads words known more := by
  have solid : value.isEmpty = false := by simpa using plain.nonempty
  cases spelled with
  | long =>
      have ended : ∀ c ∈ ([] : Text).head?, c = '=' := by simp
      have word := Word.of_text_long name ended
      rw [List.append_nil] at word
      exact reads_apart word plain added
  | longAssigned => exact reads_joined (Word.of_text_long name (by simp)) added
  | short has => exact reads_apart (Word.of_text_short has []) plain added
  | shortJoined has =>
      refine reads_joined ?_ added
      rw [Word.of_text_short has, solid, Word.assigned_plain plain]
      rfl
  | shortAssigned has => exact reads_joined (Word.of_text_short has ('=' :: value)) added

theorem reads_lint (unset : known.lint = false) :
    Reads ["--lint".toList] known { known with lint := true } := by
  apply reads_word
  intro given pending rest settled
  rw [add, Word.of_text_lint, settled]
  change (known.addFlag .lint).bind _ = _
  rw [addFlag, unset]
  rfl

theorem add_option_traceback (added : known.addOption name value = .ok more) :
    more.traceback = known.traceback := by
  cases name <;> grind [addOption]

theorem settle_traceback (settled : given.settle pending = .ok known) :
    known.traceback = given.traceback := by
  rcases pending with _ | ⟨name, _ | value⟩
  · obtain rfl := Except.ok.inj settled
    rfl
  · exact absurd settled (by simp [settle])
  · exact add_option_traceback settled

theorem reads_plain (plain : PlainWord text) (unset : known.traceback = none) :
    Reads [text] known { known with traceback := some text } := by
  apply reads_word
  intro given pending rest settled
  have first : given.addPlain pending text = .ok { known with traceback := some text } := by
    rw [addPlain, ← settle_traceback settled, unset, settled]
    rfl
  rw [add, Word.of_text_plain plain]
  -- an option that still lacks its value would take the word, but then nothing is settled
  rcases pending with _ | ⟨name, _ | value⟩
  · change (given.addPlain none text).bind _ = _
    rw [first]
    rfl
  · exact absurd settled (by simp [settle])
  · change (given.addPlain (some (name, some value)) text).bind _ = _
    rw [first]
    rfl

end Given

end TraceGloss.CommandLine
