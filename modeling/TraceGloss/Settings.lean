import TraceGloss.Presenter
import TraceGloss.Text.Quoted
import TraceGloss.Toml.Document
import TraceGloss.Toml.Range

/-!
# Settings

The settings come from a TOML document with a section for the presenter and one
for the lint. Whatever is missing has its standard value, unknown keys are
dropped, and a value of the wrong type or a number out of range spoils the
document. A section may also be an array of its settings in their order; what
follows them is never looked at. What counts as a document is the assumption of
`Toml.read`. Settings of the right types can still be invalid: the live buffer
must have a name, and the indent must consist of spaces and tabs.
-/

namespace TraceGloss

set_option autoImplicit false

structure Settings where
  presenter : Presenter
  /-- Whether full-width characters are looked for. -/
  fullWidth : Bool
  deriving DecidableEq, Repr

inductive SettingsFault where
  | emptyLiveBuffer
  | visibleIndent (indent : Text)
  deriving DecidableEq, Repr

def SettingsFault.message : SettingsFault → Text
  | emptyLiveBuffer => "presenter.live_buffer must not be empty".toList
  | visibleIndent indent =>
      "presenter.snippet_indent must contain only spaces or tabs, got ".toList ++
        Text.quoted indent

namespace Settings

inductive Unreadable where
  /-- The text is no document. -/
  | document (fault : Toml.Fault)
  /-- The document has a value of the wrong type, or a number out of range. -/
  | value
  deriving DecidableEq, Repr

/-- What is said about the fault of a text, if its place is known. -/
def Unreadable.report? (text : Text) : Unreadable → Option Text
  | document fault => fault.report? text
  | value => none

def standard : Settings := ⟨.standard, true⟩

def fault? (settings : Settings) : Option SettingsFault :=
  if settings.presenter.liveBuffer = [] then some .emptyLiveBuffer
  else if settings.presenter.snippetIndent.all Text.isIndent then none
  else some (.visibleIndent settings.presenter.snippetIndent)

/-- A text that a document may give, or the standard one. -/
def text? (standard : Text) : Option Toml.Value → Option Text
  | none => some standard
  | some (.string text) => some text
  | some _ => none

def flag? (standard : Bool) : Option Toml.Value → Option Bool
  | none => some standard
  | some (.boolean value) => some value
  | some _ => none

/-- Whether what a table holds beside some keys can be dropped. -/
def droppable (names : List Text) (entries : Toml.Table) : Bool :=
  Toml.entriesInRange (entries.filter fun entry => !names.contains entry.1)

/-- What a section gives for the names of its settings. A date or a time is a
section without any setting. -/
def section? (names : List Text) : Option Toml.Value → Option (Text → Option Toml.Value)
  | none => some fun _ => none
  | some (.table _ entries) =>
      if droppable names entries then some fun name => entries.lookup name else none
  | some (.array items) => some fun name => (names.zip items).lookup name
  | some (.tables items) =>
      some fun name => (names.zip (items.map (.table .header))).lookup name
  | some (.moment _) => some fun _ => none
  | some _ => none

def presenterKey : Text := "presenter".toList

def lintKey : Text := "lint".toList

def liveBufferKey : Text := "live_buffer".toList

def snippetIndentKey : Text := "snippet_indent".toList

def fullWidthKey : Text := "full_width".toList

def ofTable? (table : Toml.Table) : Option Settings :=
  if droppable [presenterKey, lintKey] table then do
    let presenter ← section? [liveBufferKey, snippetIndentKey] (table.lookup presenterKey)
    let liveBuffer ← text? Presenter.standard.liveBuffer (presenter liveBufferKey)
    let snippetIndent ← text? Presenter.standard.snippetIndent (presenter snippetIndentKey)
    let lint ← section? [fullWidthKey] (table.lookup lintKey)
    let fullWidth ← flag? true (lint fullWidthKey)
    return ⟨⟨liveBuffer, snippetIndent⟩, fullWidth⟩
  else none

def read (text : Text) : Except Unreadable Settings := do
  let table ← (Toml.read text).mapError .document
  match ofTable? table with
  | some settings => return settings
  | none => throw .value

end Settings

end TraceGloss
