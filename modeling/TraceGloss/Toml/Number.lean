import TraceGloss.Text.Numeral
import TraceGloss.Toml.Quote

/-!
# Numbers of a TOML document

Integers are decimal with perhaps a sign, or hexadecimal, octal or binary
without one. Floats are decimal with a fraction, an exponent or both, or one of
the words for infinity and for what is no number. Single underscores may stand
between digits, and a decimal number has no leading zero. An integer is in range
when it fits 128 bits, and a float when it does not round to infinity.

Not every word that counts as an integer denotes one. A word that begins with
digits and an underscore is an integer whatever follows, if it holds no space
and no mark of a float and every underscore stands between hexadecimal digits;
so is the mark of a base without any digit.
-/

namespace TraceGloss.Toml

set_option autoImplicit false

/-- A row of digits without the single underscores between them. -/
def ungroup? (isDigit : Char → Bool) : Text → Option Text
  | [] => none
  | c :: rest =>
      if isDigit c then
        match rest with
        | [] => some [c]
        | '_' :: more => (ungroup? isDigit more).map (c :: ·)
        | d :: more => (ungroup? isDigit (d :: more)).map (c :: ·)
      else none

def digits? (text : Text) : Option Text :=
  ungroup? Text.isAsciiDigit text

/-- Decimal digits without a leading zero. -/
def decimal? (text : Text) : Option Text :=
  (digits? text).filter fun digits => digits.length = 1 || digits.head? != some '0'

/-- A text without the sign at its beginning, and that sign. -/
def unsigned : Text → Option Char × Text
  | '+' :: rest => (some '+', rest)
  | '-' :: rest => (some '-', rest)
  | text => (none, text)

def withSign (sign : Option Char) (size : Nat) : Int :=
  if sign = some '-' then -Int.ofNat size else Int.ofNat size

/-- The base that a text is marked with, and what follows the mark. -/
def marked? : Text → Option (Nat × Text)
  | '0' :: 'x' :: rest => some (16, rest)
  | '0' :: 'o' :: rest => some (8, rest)
  | '0' :: 'b' :: rest => some (2, rest)
  | _ => none

def isDigitOf (base : Nat) (c : Char) : Bool :=
  match hexValue? c with
  | some value => decide (value < base)
  | none => false

/-- Whether every underscore of a text stands between hexadecimal digits. The
flag says whether one stands before the text at hand. -/
def isGrouped : Bool → Text → Bool
  | _, [] => true
  | behindDigit, c :: rest =>
      if c = '_' then
        behindDigit && rest.head?.any (isDigitOf 16) && isGrouped false rest
      else isGrouped (isDigitOf 16 c) rest

/-- A space, or a character that makes a decimal number a float. No integer
holds one. -/
def barsInteger (c : Char) : Bool :=
  c == ' ' || c == '.' || c == 'e' || c == 'E'

def isDecimalInteger (text : Text) : Bool :=
  let (_, size) := unsigned text
  match size.dropWhile Text.isAsciiDigit with
  | [] => (decimal? size).isSome
  | c :: rest =>
      c == '_' && !rest.any barsInteger && size.head? != some '0' && isGrouped false size

def isInteger (text : Text) : Bool :=
  match marked? text with
  | some (base, digits) => digits.isEmpty || (ungroup? (isDigitOf base) digits).isSome
  | none => isDecimalInteger text

/-- The number that digits of a base denote, whatever underscores are between
them. -/
def inBase? (base : Nat) (text : Text) : Option Nat :=
  match text.filter (· != '_') with
  | [] => none
  | digits =>
      if digits.all (isDigitOf base) then
        (digits.mapM hexValue?).map fun values =>
          values.foldl (fun total digit => base * total + digit) 0
      else none

def integerValue? (text : Text) : Option Int :=
  match marked? text with
  | some (base, digits) => (inBase? base digits).map Int.ofNat
  | none =>
      let (sign, size) := unsigned text
      (inBase? 10 size).map (withSign sign)

/-- Whether an integer fits 128 bits, with or without a sign. -/
def integerInRange (value : Int) : Bool :=
  -(Nat.pow 2 127 : Int) ≤ value && value < Nat.pow 2 128

/-- The least number that rounds to infinity. -/
def floatLimit : Nat := Nat.pow 2 1024 - Nat.pow 2 970

/-- Whether digits times a power of ten round to infinity. -/
def overflows (digits : Text) (power : Int) : Bool :=
  let significant := digits.dropWhile (· == '0')
  let size : Int := significant.length + power
  if significant.isEmpty || size < 309 then false
  else if 309 < size then true
  else
    let value := Text.numeralValue significant
    if 0 ≤ power then decide (floatLimit ≤ value * Nat.pow 10 power.toNat)
    else decide (floatLimit * Nat.pow 10 (-power).toNat ≤ value)

def fraction? : Text → Option Text
  | [] => some []
  | '.' :: rest => digits? rest
  | _ => none

def exponent? : Text → Option Int
  | [] => some 0
  | _ :: rest =>
      let (sign, digits) := unsigned rest
      (digits? digits).map fun digits => withSign sign (Text.numeralValue digits)

/-- The digits of a float and the power of ten that they count. -/
def decimalFloat? (text : Text) : Option (Text × Int) :=
  let (_, size) := unsigned text
  let isExponent := fun c => c == 'e' || c == 'E'
  let mantissa := size.takeWhile (!isExponent ·)
  let exponentText := size.dropWhile (!isExponent ·)
  let fractionText := mantissa.dropWhile (· != '.')
  match decimal? (mantissa.takeWhile (· != '.')), fraction? fractionText,
    exponent? exponentText with
  | some whole, some fraction, some exponent =>
      if fractionText.isEmpty && exponentText.isEmpty then none
      else some (whole ++ fraction, exponent - fraction.length)
  | _, _, _ => none

def isSpecialFloat (text : Text) : Bool :=
  let (_, size) := unsigned text
  size = "inf".toList || size = "nan".toList

def isFloat (text : Text) : Bool :=
  isSpecialFloat text || (decimalFloat? text).isSome

def floatInRange (text : Text) : Bool :=
  match decimalFloat? text with
  | some (digits, power) => !overflows digits power
  | none => true

end TraceGloss.Toml
