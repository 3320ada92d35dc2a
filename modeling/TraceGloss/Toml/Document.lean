import TraceGloss.Toml.Reading

/-!
# TOML documents

A document is a row of lines. A line assigns a value to a key of the table at
hand, or is a header that opens another table. A byte order mark may stand in
front of all. A document that breaks a rule is no document at all.

The language is TOML 1.1. That settings are read by these rules is assumed, and
so are the choices that the language leaves open: how deep values may stand in
each other and how many keys a dotted key may have (`maxDepth`), which words
count as integers without denoting one (`isInteger`), that a number may be of
any size until it is looked at (`Value.inRange`), and that of all faults only a
repeated key has a place (`Fault`). Plain documents, of headers and of bare keys
with a text or a truth value, need none of these choices.
-/

namespace TraceGloss.Toml

set_option autoImplicit false

/-- What is read of a document: its table, and the way to the table at hand. -/
structure Document where
  root : Table
  current : List Text

namespace Document

def assign (document : Document) (key : DottedKey) (value : Value) : Except Fault Document :=
  ((Table.within false (Table.put key.way key.last value) document.current .header
    document.root).map fun changed => { document with root := changed.2 }).mapError key.fault

/-- The document whose table at hand is the one that a header has opened. -/
def enter (key : DottedKey) (opened : Except Conflict Table) : Except Fault Document :=
  (opened.map fun root => ⟨root, key.way ++ [key.last]⟩).mapError key.fault

/-- What a header opens, and what follows it. The first bracket is read. -/
def header (document : Document) : Text → Except Fault (Document × Text)
  | '[' :: text =>
      match dottedKey? (skipIndent text) with
      | some (key, ']' :: ']' :: rest) =>
          (enter key (document.root.openItem key.way key.last)).map (·, rest)
      | _ => .error .malformed
  | text =>
      match dottedKey? (skipIndent text) with
      | some (key, ']' :: rest) =>
          (enter key (document.root.openTable key.way key.last)).map (·, rest)
      | _ => .error .malformed

def line (fuel : Nat) (document : Document) : Text → Except Fault (Document × Text)
  | '[' :: rest => document.header rest
  | text => do
      let (key, value, rest) ← readAssignment fuel text
      return (← document.assign key value, rest)

/-- Reads lines to the end of a text. There is fuel for the lines, and more for
the value of each. -/
def readLines (valueFuel : Nat) : Nat → Document → Text → Except Fault Document
  | 0, _, _ => .error .malformed
  | fuel + 1, document, text =>
      match skipAll text with
      | [] => .ok document
      | following =>
          match document.line valueFuel following with
          | .error fault => .error fault
          | .ok (document, rest) =>
              match lineEnd? rest with
              | none => .error .malformed
              | some more => readLines valueFuel fuel document more

end Document

def read (text : Text) : Except Fault Table :=
  let text := (Text.after? ['\ufeff'] text).getD text
  (Document.readLines (2 * text.length + 2) (text.length + 1) ⟨[], []⟩ text).map (·.root)

end TraceGloss.Toml
