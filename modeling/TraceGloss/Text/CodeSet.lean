import TraceGloss.Text.Basic

/-!
# Sets of code points

A property of characters is given by the ascending list of the code points at
which it changes: it holds from the first of them to before the second, from
the third to before the fourth, and so on.
-/

namespace TraceGloss.Text

set_option autoImplicit false

/-- The ascending code points at which membership changes. -/
abbrev CodeSet := List Nat

def CodeSet.covers : CodeSet → Nat → Bool
  | [], _ => false
  | change :: later, code => change ≤ code && !covers later code

end TraceGloss.Text
