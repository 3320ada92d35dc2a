import TraceGloss.Text.Basic

/-!
# Values of a TOML document

A document is a table, and a table holds values under keys in the order in
which they were written. How a table came to be decides whether more may be
written into it later, so every table keeps its kind.
-/

namespace TraceGloss.Toml

set_option autoImplicit false

inductive TableKind where
  /-- Written as a value between braces. Nothing can be added to it. -/
  | closed
  | header
  /-- Named only on the way to another table. -/
  | implied
  | dotted
  deriving DecidableEq, Repr

/-- A value. The digits of a number that is no integer, and those of a date or
a time, are kept as they are written. -/
inductive Value where
  | string (text : Text)
  /-- A word that counts as an integer, with the number that it denotes, if it
  denotes one. -/
  | integer (value : Option Int)
  | float (text : Text)
  | boolean (value : Bool)
  | moment (text : Text)
  | array (items : List Value)
  | table (kind : TableKind) (entries : List (Text × Value))
  /-- An array of tables, each written by a header of its own. -/
  | tables (items : List (List (Text × Value)))

abbrev Table := List (Text × Value)

inductive Conflict where
  /-- The way to the table leads through what cannot be extended. -/
  | closedWay
  | takenKey
  deriving DecidableEq, Repr

namespace Table

def replace (table : Table) (key : Text) (value : Value) : Table :=
  table.map fun entry => if entry.1 = key then (key, value) else entry

/-- Appends a value under a key that the table does not have yet. -/
def add (table : Table) (key : Text) (value : Value) : Except Conflict Table :=
  if (table.lookup key).isSome then .error .takenKey else .ok (table ++ [(key, value)])

/-- Changes the table at the end of a path, given with its kind. Tables that are
missing on the way are made, dotted or implied as the path is. A path leads into
the last table of an array of tables, never into a closed table. A dotted path
does not lead into a table that has a header, and the implied tables on its way
count as dotted from then on. -/
def within (dotted : Bool)
    (change : TableKind → Table → Except Conflict (TableKind × Table)) :
    List Text → TableKind → Table → Except Conflict (TableKind × Table)
  | [], kind, table => change kind table
  | key :: path, kind, table =>
      match table.lookup key with
      | none =>
          (within dotted change path (if dotted then .dotted else .implied) []).map fun inner =>
            (kind, table ++ [(key, .table inner.1 inner.2)])
      | some (.table found entries) =>
          if found = .closed ∨ (dotted = true ∧ found = .header) then .error .closedWay
          else
            (within dotted change path (if dotted then .dotted else found) entries).map
              fun inner => (kind, table.replace key (.table inner.1 inner.2))
      | some (.tables items) =>
          match items.getLast? with
          | none => .error .closedWay
          | some last =>
              (within dotted change path .header last).map fun inner =>
                (kind, table.replace key (.tables (items.dropLast ++ [inner.2])))
      | some _ => .error .closedWay

/-- Writes a value under a dotted key. The table that a way of dotted keys leads
to must not have a header. -/
def put (path : List Text) (key : Text) (value : Value) (kind : TableKind) (table : Table) :
    Except Conflict (TableKind × Table) :=
  within true
    (fun kind table =>
      if path ≠ [] ∧ kind = .header then .error .closedWay
      else (table.add key value).map (kind, ·))
    path kind table

def openTable (path : List Text) (key : Text) (table : Table) : Except Conflict Table :=
  (within false
    (fun kind table =>
      match table.lookup key with
      | none => .ok (kind, table ++ [(key, .table .header [])])
      | some (.table .implied entries) =>
          .ok (kind, table.replace key (.table .header entries))
      | some _ => .error .takenKey)
    path .header table).map (·.2)

/-- Appends a table to the array of tables that a header names. -/
def openItem (path : List Text) (key : Text) (table : Table) : Except Conflict Table :=
  (within false
    (fun kind table =>
      match table.lookup key with
      | none => .ok (kind, table ++ [(key, .tables [[]])])
      | some (.tables items) => .ok (kind, table.replace key (.tables (items ++ [[]])))
      | some _ => .error .takenKey)
    path .header table).map (·.2)

end Table

end TraceGloss.Toml
