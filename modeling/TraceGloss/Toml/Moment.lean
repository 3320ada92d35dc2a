import TraceGloss.Text.Numeral

/-!
# Dates and times of a TOML document

A date is a year, a month and a day of that month. A time is an hour and a
minute, perhaps a second, perhaps a fraction of it. A date and a time are joined
by the letter T or a space, and an offset from universal time may follow both.
-/

namespace TraceGloss.Toml

set_option autoImplicit false

def fixedNumber? (count : Nat) (text : Text) : Option (Nat × Text) :=
  let digits := text.take count
  if digits.length = count ∧ digits.all Text.isAsciiDigit then
    some (Text.numeralValue digits, text.drop count)
  else none

def daysIn (year month : Nat) : Nat :=
  if month = 2 then
    if year % 4 = 0 ∧ (year % 100 ≠ 0 ∨ year % 400 = 0) then 29 else 28
  else if month = 4 ∨ month = 6 ∨ month = 9 ∨ month = 11 then 30
  else 31

def afterDate? (text : Text) : Option Text := do
  let (year, text) ← fixedNumber? 4 text
  let text ← Text.after? ['-'] text
  let (month, text) ← fixedNumber? 2 text
  let text ← Text.after? ['-'] text
  let (day, text) ← fixedNumber? 2 text
  if 1 ≤ month ∧ month ≤ 12 ∧ 1 ≤ day ∧ day ≤ daysIn year month then some text else none

def afterMinute? (text : Text) : Option Text := do
  let (hour, text) ← fixedNumber? 2 text
  let text ← Text.after? [':'] text
  let (minute, text) ← fixedNumber? 2 text
  if hour ≤ 23 ∧ minute ≤ 59 then some text else none

/-- What follows the second and its fraction that a text begins with, if it
begins with any. A leap second is allowed. -/
def afterSecond? (text : Text) : Option Text :=
  match text with
  | ':' :: rest =>
      match fixedNumber? 2 rest with
      | none => none
      | some (second, following) =>
          if 60 < second then none
          else
            match following with
            | '.' :: fraction =>
                if (fraction.takeWhile Text.isAsciiDigit).isEmpty then none
                else some (fraction.dropWhile Text.isAsciiDigit)
            | _ => some following
  | _ => some text

def afterTime? (text : Text) : Option Text :=
  (afterMinute? text).bind afterSecond?

/-- Whether a text is an offset from universal time, or empty. -/
def isOffset : Text → Bool
  | [] => true
  | sign :: rest =>
      ((sign == 'Z' || sign == 'z') && rest.isEmpty) ||
        ((sign == '+' || sign == '-') && afterMinute? rest == some [])

/-- Whether a text is a date, a time, or both. -/
def isMoment (text : Text) : Bool :=
  match afterDate? text with
  | some [] => true
  | some (joint :: rest) =>
      "Tt ".toList.contains joint &&
        match afterTime? rest with
        | some offset => isOffset offset
        | none => false
  | none => afterTime? text == some []

end TraceGloss.Toml
