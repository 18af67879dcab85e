import TodoLedger.Binary64
import TodoLedger.Json.Value

/-!
# Reading JSON text

`Json.parse` reads a whole text as one value. The format is strict: no comments, no trailing
commas, no leading zeros, no raw control characters in strings, no half of a surrogate pair. Lists
and objects nest at most `nestingLimit` deep, and a number too large for a 64-bit binary fraction is
refused. Every reader takes the characters ahead and gives its result with the characters left.
-/

namespace TodoLedger.Json

/-- How deep lists and objects may nest. -/
def nestingLimit : Nat := 127

/-- The white space that may stand between tokens. -/
def isSpace (c : Char) : Bool := c = ' ' || c = '\n' || c = '\t' || c = '\r'

/-- The text without the white space at its start. -/
def skipSpace (text : List Char) : List Char := text.dropWhile isSpace

/-! ### Strings -/

/-- The value of a hexadecimal digit. -/
def hexValue? (c : Char) : Option Nat :=
  if '0' ≤ c ∧ c ≤ '9' then some (c.toNat - '0'.toNat)
  else if 'a' ≤ c ∧ c ≤ 'f' then some (c.toNat - 'a'.toNat + 10)
  else if 'A' ≤ c ∧ c ≤ 'F' then some (c.toNat - 'A'.toNat + 10)
  else none

/-- Reads four hexadecimal digits. -/
def hex4? : List Char → Option (Nat × List Char)
  | a :: b :: c :: d :: rest => do
    let a ← hexValue? a
    let b ← hexValue? b
    let c ← hexValue? c
    let d ← hexValue? d
    some (((a * 16 + b) * 16 + c) * 16 + d, rest)
  | _ => none

/-- Reads the digits of a `\u` escape; the first half of a surrogate pair takes the second half
with it. -/
def unicodeEscape? (text : List Char) : Option (Char × List Char) :=
  match hex4? text with
  | none => none
  | some (unit, rest) =>
    if 0xDC00 ≤ unit ∧ unit ≤ 0xDFFF then none
    else if 0xD800 ≤ unit ∧ unit ≤ 0xDBFF then
      match rest with
      | '\\' :: 'u' :: rest =>
        match hex4? rest with
        | none => none
        | some (low, rest) =>
          if 0xDC00 ≤ low ∧ low ≤ 0xDFFF then
            some (Char.ofNat (0x10000 + (unit - 0xD800) * 0x400 + (low - 0xDC00)), rest)
          else none
      | _ => none
    else some (Char.ofNat unit, rest)

/-- Reads what follows the backslash of an escape. -/
def escape? : List Char → Option (Char × List Char)
  | '"' :: rest => some ('"', rest)
  | '\\' :: rest => some ('\\', rest)
  | '/' :: rest => some ('/', rest)
  | 'b' :: rest => some ('\x08', rest)
  | 'f' :: rest => some ('\x0c', rest)
  | 'n' :: rest => some ('\n', rest)
  | 'r' :: rest => some ('\r', rest)
  | 't' :: rest => some ('\t', rest)
  | 'u' :: rest => unicodeEscape? rest
  | _ => none

/-- Reads a string after its opening quote. The first argument bounds the number of characters,
`reversed` holds those read so far. -/
def stringAfter? (reversed : List Char) : Nat → List Char → Option (String × List Char)
  | 0, _ => none
  | bound + 1, text =>
    match text with
    | [] => none
    | '"' :: rest => some (String.ofList reversed.reverse, rest)
    | '\\' :: rest =>
      match escape? rest with
      | none => none
      | some (c, rest) => stringAfter? (c :: reversed) bound rest
    | c :: rest => if c.toNat < 0x20 then none else stringAfter? (c :: reversed) bound rest

/-- Reads a string after its opening quote. -/
def string? (text : List Char) : Option (String × List Char) :=
  stringAfter? [] (text.length + 1) text

/-! ### Numbers -/

/-- The number that a list of decimal digits writes. -/
def digitsValue (digits : List Char) : Nat :=
  digits.foldl (fun n c => n * 10 + (c.toNat - '0'.toNat)) 0

/-- The greatest explicit exponent. -/
def exponentLimit : Nat := 2147483647

/-- Adds digits to a number as long as it stays below `2^64`. Also gives how many were added. -/
def gatherDigits (start : Nat) : List Char → Nat × Nat
  | [] => (start, 0)
  | c :: rest =>
    let next := start * 10 + (c.toNat - '0'.toNat)
    if next < UInt64.size then
      let (value, count) := gatherDigits next rest
      (value, count + 1)
    else (start, 0)

/-- Reads the digits before the point: a single zero, or digits that do not start with one. -/
def whole? (text : List Char) : Option (List Char × List Char) :=
  match text.takeWhile Char.isDigit, text.dropWhile Char.isDigit with
  | [], _ => none
  | ['0'], rest => some (['0'], rest)
  | '0' :: _, _ => none
  | digits, rest => some (digits, rest)

/-- Reads the digits after the point, if there is a point. -/
def fraction? : List Char → Option (List Char × List Char)
  | '.' :: rest =>
    match rest.takeWhile Char.isDigit with
    | [] => none
    | digits => some (digits, rest.dropWhile Char.isDigit)
  | rest => some ([], rest)

/-- Reads the sign of an exponent. -/
def exponentSign : List Char → Bool × List Char
  | '+' :: rest => (false, rest)
  | '-' :: rest => (true, rest)
  | rest => (false, rest)

/-- Reads the exponent, if there is one. -/
def exponent? : List Char → Option (Option Int × List Char)
  | c :: rest =>
    if c = 'e' || c = 'E' then
      let (negative, rest) := exponentSign rest
      match rest.takeWhile Char.isDigit with
      | [] => none
      | digits =>
        let value : Int := digitsValue digits
        some (some (if negative then -value else value), rest.dropWhile Char.isDigit)
    else some (none, c :: rest)
  | [] => some (none, [])

/-- The parts of a number, and how it is written. -/
structure Numeral where
  negative : Bool
  whole : List Char
  fraction : List Char
  exponent : Option Int
  written : List Char

/-- True when the number is finite. Only digits that fit into 64 bits count: of those before the
point each further one is taken for a zero, and those after it are dropped. -/
def Numeral.isFinite (n : Numeral) : Bool :=
  let (whole, wholeCount) := gatherDigits 0 n.whole
  let (mantissa, fractionCount) := gatherDigits whole n.fraction
  let explicit := n.exponent.getD 0
  let scale : Int := n.whole.length - wholeCount - fractionCount
  if (exponentLimit : Int) < explicit then mantissa = 0
  else Binary64.isFiniteProduct mantissa (scale + explicit)

/-- The value of a number. Zero with a minus sign is no integer. -/
def Numeral.value? (n : Numeral) : Option Json :=
  let integral := n.fraction.isEmpty && n.exponent.isNone
  let magnitude := digitsValue n.whole
  if integral && !n.negative && magnitude < UInt64.size then some (.int magnitude)
  else if integral && n.negative && 0 < magnitude && magnitude ≤ Nat.pow 2 63 then
    some (.int (-magnitude))
  else if n.isFinite then
    some (.real (String.ofList n.written))
  else none

/-- The minus sign of a number. -/
def minusSign : List Char → Bool × List Char
  | '-' :: rest => (true, rest)
  | rest => (false, rest)

/-- Reads a number. -/
def number? (text : List Char) : Option (Json × List Char) := do
  let (negative, rest) := minusSign text
  let (whole, rest) ← whole? rest
  let (fraction, rest) ← fraction? rest
  let (exponent, rest) ← exponent? rest
  let written := text.take (text.length - rest.length)
  let value ← Numeral.value? ⟨negative, whole, fraction, exponent, written⟩
  some (value, rest)

/-! ### Values -/

/-- Reads a value that is neither a list nor an object. -/
def scalar? (text : List Char) : Option (Json × List Char) :=
  match text with
  | 'n' :: 'u' :: 'l' :: 'l' :: rest => some (.null, rest)
  | 't' :: 'r' :: 'u' :: 'e' :: rest => some (.bool true, rest)
  | 'f' :: 'a' :: 'l' :: 's' :: 'e' :: rest => some (.bool false, rest)
  | '"' :: rest => (string? rest).map fun (value, rest) => (.string value, rest)
  | _ => number? text

/-- Reads the items of a list up to its closing bracket, each with `value?`. The first number
bounds how many there are. -/
def items? (value? : List Char → Option (Json × List Char)) :
    Nat → List Char → Option (List Json × List Char)
  | 0, _ => none
  | bound + 1, text =>
    match value? text with
    | none => none
    | some (value, rest) =>
      match skipSpace rest with
      | ',' :: rest => (items? value? bound rest).map fun (values, rest) => (value :: values, rest)
      | ']' :: rest => some ([value], rest)
      | _ => none

/-- Reads the fields of an object up to its closing brace, each value with `value?`. The first
number bounds how many there are. -/
def fields? (value? : List Char → Option (Json × List Char)) :
    Nat → List Char → Option (List (String × Json) × List Char)
  | 0, _ => none
  | bound + 1, text =>
    match skipSpace text with
    | '"' :: rest =>
      match string? rest with
      | none => none
      | some (name, rest) =>
        match skipSpace rest with
        | ':' :: rest =>
          match value? rest with
          | none => none
          | some (value, rest) =>
            match skipSpace rest with
            | ',' :: rest =>
              (fields? value? bound rest).map fun (fields, rest) => ((name, value) :: fields, rest)
            | '}' :: rest => some ([(name, value)], rest)
            | _ => none
        | _ => none
    | _ => none

/-- Reads a value whose lists and objects nest at most `depth` deep. -/
def value? : Nat → List Char → Option (Json × List Char)
  | 0, text =>
    match skipSpace text with
    | '[' :: _ | '\x7b' :: _ => none
    | text => scalar? text
  | depth + 1, text =>
    match skipSpace text with
    | '[' :: rest =>
      match skipSpace rest with
      | ']' :: rest => some (.list [], rest)
      | rest => (items? (value? depth) rest.length rest).map fun (items, rest) => (.list items, rest)
    | '\x7b' :: rest =>
      match skipSpace rest with
      | '}' :: rest => some (.object [], rest)
      | rest =>
        (fields? (value? depth) rest.length rest).map fun (fields, rest) => (.object fields, rest)
    | text => scalar? text

/-- Reads a text that holds one value and nothing else. -/
def parse (text : String) : Option Json :=
  match value? nestingLimit text.toList with
  | some (value, rest) => if (skipSpace rest).isEmpty then some value else none
  | none => none

end TodoLedger.Json
