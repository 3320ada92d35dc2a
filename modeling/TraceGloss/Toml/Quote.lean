import TraceGloss.Toml.Blank

/-!
# Strings of a TOML document

Strings stand between double quotes, with escapes, or between single quotes,
without. Three quotes on either side make a string of several lines: a line end
directly after the opening is dropped, all others are kept as they are, and one
or two quotes may stand directly before the closing.
-/

namespace TraceGloss.Toml

set_option autoImplicit false

def hexValue? (c : Char) : Option Nat :=
  if '0' ≤ c ∧ c ≤ '9' then some (c.toNat - '0'.toNat)
  else if 'a' ≤ c ∧ c ≤ 'f' then some (c.toNat - 'a'.toNat + 10)
  else if 'A' ≤ c ∧ c ≤ 'F' then some (c.toNat - 'A'.toNat + 10)
  else none

/-- The character that a row of hexadecimal digits names. -/
def scalar? (digits : Text) : Option Char := do
  let values ← digits.mapM hexValue?
  let code := values.foldl (fun code digit => 16 * code + digit) 0
  if code.isValidChar then some (Char.ofNat code) else none

def codeEscape? (count : Nat) (text : Text) : Option (Char × Text) :=
  let digits := text.take count
  if digits.length < count then none
  else (scalar? digits).map fun c => (c, text.drop count)

/-- The character of an escape, and what follows. The backslash is already
read. -/
def escape? : Text → Option (Char × Text)
  | [] => none
  | c :: rest =>
      match c with
      | 'b' => some ('\x08', rest)
      | 't' => some ('\t', rest)
      | 'n' => some ('\n', rest)
      | 'f' => some ('\x0c', rest)
      | 'r' => some ('\r', rest)
      | 'e' => some ('\x1b', rest)
      | '"' => some ('"', rest)
      | '\\' => some ('\\', rest)
      | 'x' => codeEscape? 2 rest
      | 'u' => codeEscape? 4 rest
      | 'U' => codeEscape? 8 rest
      | _ => none

def push (c : Char) (read : Option (Text × Text)) : Option (Text × Text) :=
  read.map fun (text, rest) => (c :: text, rest)

def basicRest : Nat → Text → Option (Text × Text)
  | 0, _ => none
  | _ + 1, [] => none
  | fuel + 1, c :: rest =>
      if c = '"' then some ([], rest)
      else if c = '\\' then
        match escape? rest with
        | some (escaped, following) => push escaped (basicRest fuel following)
        | none => none
      else if isPrinted c then push c (basicRest fuel rest)
      else none

def literalRest : Text → Option (Text × Text)
  | [] => none
  | c :: rest =>
      if c = '\'' then some ([], rest)
      else if isPrinted c then push c (literalRest rest)
      else none

/-- What a string of several lines holds before its closing quotes, when the
text begins with them, and what follows. -/
def closing? (quote : Char) (text : Text) : Option (Text × Text) :=
  let quotes := (text.takeWhile (· == quote)).length
  if quotes < 3 then none
  else
    let held := min (quotes - 3) 2
    some (List.replicate held quote, text.drop (held + 3))

def skipLineEnds : Text → Text
  | [] => []
  | '\r' :: '\n' :: rest => skipLineEnds rest
  | c :: rest => if Text.isIndent c || c == '\n' then skipLineEnds rest else c :: rest

/-- What follows a backslash that ends a line: the blanks and line ends after
it are dropped. -/
def continuation? (text : Text) : Option Text :=
  (newline? (skipIndent text)).map skipLineEnds

/-- The rest of a string of several lines, and what follows it. Escapes are
read between double quotes only. -/
def linesRest (quote : Char) : Nat → Text → Option (Text × Text)
  | 0, _ => none
  | _ + 1, [] => none
  | fuel + 1, c :: rest =>
      match closing? quote (c :: rest) with
      | some closed => some closed
      | none =>
          if c = '\\' ∧ quote = '"' then
            match continuation? rest, escape? rest with
            | some following, _ => linesRest quote fuel following
            | none, some (escaped, following) => push escaped (linesRest quote fuel following)
            | none, none => none
          else if isPrinted c || (newline? (c :: rest)).isSome then
            push c (linesRest quote fuel rest)
          else none

def shortString? : Text → Option (Text × Text)
  | '"' :: rest => basicRest (rest.length + 1) rest
  | '\'' :: rest => literalRest rest
  | _ => none

def string? (text : Text) : Option (Text × Text) :=
  match text with
  | '"' :: '"' :: '"' :: rest => linesRest '"' (rest.length + 1) ((newline? rest).getD rest)
  | '\'' :: '\'' :: '\'' :: rest => linesRest '\'' (rest.length + 1) ((newline? rest).getD rest)
  | _ => shortString? text

end TraceGloss.Toml
