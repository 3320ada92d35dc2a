import TraceGloss.Toml.Number
import TraceGloss.Toml.Value

/-!
# Numbers in range

A document may hold numbers of any size, and words that count as integers but
denote none. Whoever looks at a value, if only to drop it, needs every number in
it to be one that is in range.
-/

namespace TraceGloss.Toml

set_option autoImplicit false

mutual

/-- Whether all numbers of a value are in range. -/
def Value.inRange : Value → Bool
  | .string _ => true
  | .integer value => value.any integerInRange
  | .float text => floatInRange text
  | .boolean _ => true
  | .moment _ => true
  | .array items => allInRange items
  | .table _ entries => entriesInRange entries
  | .tables items => tablesInRange items

def allInRange : List Value → Bool
  | [] => true
  | value :: more => value.inRange && allInRange more

def entriesInRange : List (Text × Value) → Bool
  | [] => true
  | (_, value) :: more => value.inRange && entriesInRange more

def tablesInRange : List (List (Text × Value)) → Bool
  | [] => true
  | table :: more => entriesInRange table && tablesInRange more

end

end TraceGloss.Toml
