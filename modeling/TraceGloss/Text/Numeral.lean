import TraceGloss.Text.Basic

/-!
# Numerals

Decimal numerals of natural numbers in ASCII digits. Leading zeros are read
and never written.
-/

namespace TraceGloss.Text

set_option autoImplicit false

def isAsciiDigit (c : Char) : Bool :=
  '0' ≤ c && c ≤ '9'

def numeral (n : Nat) : Text :=
  Nat.toDigits 10 n

def numeralValue (digits : Text) : Nat :=
  digits.foldl (fun value digit => 10 * value + (digit.toNat - '0'.toNat)) 0

end TraceGloss.Text
