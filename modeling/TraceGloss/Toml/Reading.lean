import TraceGloss.Toml.Fault
import TraceGloss.Toml.Moment
import TraceGloss.Toml.Number
import TraceGloss.Toml.Value

/-!
# Reading values of a TOML document

Keys are bare words or strings of one line, and points join them to dotted
keys. A value is a string, a word, an array or a table between braces. Inside
brackets and braces line ends and comments are allowed everywhere but in a
dotted key, and a comma after the last item.
-/

namespace TraceGloss.Toml

set_option autoImplicit false

/-- How deep arrays and closed tables may stand in each other, and how many keys
a dotted key may have. -/
def maxDepth : Nat := 80

def isBare (c : Char) : Bool :=
  ('a' ≤ c && c ≤ 'z') || ('A' ≤ c && c ≤ 'Z') || Text.isAsciiDigit c || c == '_' || c == '-'

def key? (text : Text) : Option (Text × Text) :=
  match shortString? text, text.takeWhile isBare with
  | some read, _ => some read
  | none, [] => none
  | none, bare => some (bare, text.dropWhile isBare)

structure DottedKey where
  way : List Text
  last : Text
  /-- The text from the last key on. -/
  source : Text
  /-- What follows the last key, blanks too. -/
  following : Text

def DottedKey.written (key : DottedKey) : Text :=
  key.source.take (key.source.length - key.following.length)

/-- The fault that keeps a value from being written under a dotted key. -/
def DottedKey.fault (key : DottedKey) : Conflict → Fault
  | .closedWay => .malformed
  | .takenKey => .repeatedKey key.written key.following

/-- A dotted key of so many keys at most, and what follows it, blanks apart. The
keys of its way that are read already stand in front. -/
def keysAfter? : Nat → List Text → Text → Option (DottedKey × Text)
  | 0, _, _ => none
  | limit + 1, way, text => do
      let (key, rest) ← key? text
      match skipIndent rest with
      | '.' :: more => keysAfter? limit (way ++ [key]) (skipIndent more)
      | following => return (⟨way, key, text, rest⟩, following)

def dottedKey? (text : Text) : Option (DottedKey × Text) :=
  keysAfter? maxDepth [] text

/-- A character of a word: a number, a truth value, a date or a time. A word
reaches to a blank, a comment, a line end, or a mark between values. -/
def isWord (c : Char) : Bool :=
  !" \t\r\n#=,[]\x7b\x7d".toList.contains c

/-- The value of a word. Whether a number is too large to be used is not asked
here. -/
def wordValue? (word : Text) : Option Value :=
  if word = "true".toList then some (.boolean true)
  else if word = "false".toList then some (.boolean false)
  else if isMoment word then some (.moment word)
  else if isInteger word then some (.integer (integerValue? word))
  else if isFloat word then some (.float word)
  else none

/-- The word that a text begins with, and what follows it. Words with blanks
alone between them are one word, such as a date and a time, but a quote behind a
blank begins a string. The flag says whether a blank stands before the text at
hand. -/
def splitWord : Bool → Text → Text × Text
  | _, [] => ([], [])
  | behindBlank, c :: rest =>
      if isWord c && !(behindBlank && (c == '"' || c == '\'')) then
        let (word, following) := splitWord false rest
        (c :: word, following)
      else if Text.isIndent c then
        match splitWord true rest with
        | ([], _) => ([], c :: rest)
        | (word, following) => (c :: word, following)
      else ([], c :: rest)

def word? (text : Text) : Option (Value × Text) :=
  let (word, rest) := splitWord false text
  (wordValue? word).map fun value => (value, rest)

def orMalformed {α : Type} (read : Option α) : Except Fault α :=
  match read with
  | some value => .ok value
  | none => .error .malformed

mutual

def readValue : Nat → Nat → Text → Except Fault (Value × Text)
  | 0, _, _ => .error .malformed
  | fuel + 1, depth, text =>
      match depth, text with
      | 0, '[' :: _ => .error .malformed
      | 0, '\x7b' :: _ => .error .malformed
      | depth + 1, '[' :: rest => readItems fuel depth [] rest
      | depth + 1, '\x7b' :: rest => readMembers fuel depth [] rest
      | _, '"' :: _ => orMalformed ((string? text).map fun (read, rest) => (.string read, rest))
      | _, '\'' :: _ => orMalformed ((string? text).map fun (read, rest) => (.string read, rest))
      | _, _ => orMalformed (word? text)

/-- The rest of an array of which some items are read, the last one first. -/
def readItems : Nat → Nat → List Value → Text → Except Fault (Value × Text)
  | 0, _, _, _ => .error .malformed
  | fuel + 1, depth, before, text =>
      match skipAll text with
      | ']' :: rest => .ok (.array before.reverse, rest)
      | following =>
          match readValue fuel depth following with
          | .error fault => .error fault
          | .ok (item, rest) =>
              match skipAll rest with
              | ',' :: more => readItems fuel depth (item :: before) more
              | ']' :: more => .ok (.array (item :: before).reverse, more)
              | _ => .error .malformed

def readMembers : Nat → Nat → Table → Text → Except Fault (Value × Text)
  | 0, _, _, _ => .error .malformed
  | fuel + 1, depth, entries, text =>
      match skipAll text with
      | '\x7d' :: rest => .ok (.table .closed entries, rest)
      | following =>
          match (dottedKey? following).map fun (key, rest) => (key, skipAll rest) with
          | some (key, '=' :: assigned) =>
              match readValue fuel depth (skipAll assigned) with
              | .error fault => .error fault
              | .ok (value, rest) =>
                  match Table.put key.way key.last value .closed entries with
                  | .error conflict => .error (key.fault conflict)
                  | .ok (_, entries) =>
                      match skipAll rest with
                      | ',' :: more => readMembers fuel depth entries more
                      | '\x7d' :: more => .ok (.table .closed entries, more)
                      | _ => .error .malformed
          | _ => .error .malformed

end

def readAssignment (fuel : Nat) (text : Text) : Except Fault (DottedKey × Value × Text) :=
  match dottedKey? text with
  | some (key, '=' :: assigned) =>
      (readValue fuel maxDepth (skipIndent assigned)).map
        fun (value, rest) => (key, value, rest)
  | _ => .error .malformed

end TraceGloss.Toml
