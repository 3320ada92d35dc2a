import TraceGloss.Text.Numeral

/-!
# JSON layout

JSON in its indented layout: two spaces for each depth, every item of a list
and every member of an object on a line of its own, an empty list or object
without a line end inside.
-/

namespace TraceGloss.Text

set_option autoImplicit false

/-- A hexadecimal digit in lower case. -/
def hexDigit (n : Nat) : Char :=
  Nat.digitChar n

def jsonChar (c : Char) : Text :=
  if c = '"' then "\\\"".toList
  else if c = '\\' then "\\\\".toList
  else if c = '\n' then "\\n".toList
  else if c = '\r' then "\\r".toList
  else if c = '\t' then "\\t".toList
  else if c = '\x08' then "\\b".toList
  else if c = '\x0c' then "\\f".toList
  else if c.toNat < 0x20 then
    "\\u00".toList ++ [hexDigit (c.toNat / 16), hexDigit (c.toNat % 16)]
  else [c]

def jsonString (text : Text) : Text :=
  '"' :: text.flatMap jsonChar ++ ['"']

def jsonMargin (depth : Nat) : Text :=
  List.replicate (2 * depth) ' '

/-- Items between brackets. The brackets stand at `depth`, the items one
deeper. -/
def jsonBlock (left right : Char) (depth : Nat) (items : List Text) : Text :=
  if items.isEmpty then [left, right]
  else
    left :: '\n' ::
      ",\n".toList.intercalate (items.map (jsonMargin (depth + 1) ++ ·)) ++
      '\n' :: jsonMargin depth ++ [right]

def jsonList (depth : Nat) (values : List Text) : Text :=
  jsonBlock '[' ']' depth values

/-- An object, given by the names and values of its members. -/
def jsonObject (depth : Nat) (members : List (Text × Text)) : Text :=
  jsonBlock '\x7b' '\x7d' depth
    (members.map fun (name, value) => jsonString name ++ ": ".toList ++ value)

end TraceGloss.Text
