import TodoLedger.Text.Blank
import TodoLedger.Time.Calendar

/-!
# Points in time

A `Timestamp` is a point in time in UTC. It is written as date and time with a `Z`, with three, six
or nine places after the second if it is not a whole second, and with a sign before a year that
does not have four digits (`Timestamp.format`). It is read from such a text with any offset;
blanks between the parts, short numbers, a space for the `T` and `UTC` for the offset are accepted
(`Timestamp.parse?`).
-/

namespace TodoLedger.Time

/-- A point in time. -/
structure Timestamp where
  /-- Seconds from the start of 1970. -/
  seconds : Int
  /-- Nanoseconds after that second; a billion or more inside of a leap second. -/
  nanos : Nat
deriving DecidableEq, Repr, Inhabited

namespace Timestamp

/-- The first year of which a time can be told. -/
def firstYear : Int := -262143

/-- The last year of which a time can be told. -/
def lastYear : Int := 262142

/-- The first second that can be told. -/
def firstSecond : Int := dayOfDate ⟨firstYear, 1, 1⟩ * 86400

/-- The last second that can be told. -/
def lastSecond : Int := dayOfDate ⟨lastYear + 1, 1, 1⟩ * 86400 - 1

/-- The start of a second, or of 1970 for a second that cannot be told. -/
def ofSeconds (seconds : Int) : Timestamp :=
  if firstSecond ≤ seconds ∧ seconds ≤ lastSecond then ⟨seconds, 0⟩ else ⟨0, 0⟩

/-! ### Writing -/

/-- A number in decimal, with zeros in front up to the given width. -/
def padded (width n : Nat) : String :=
  let digits := toString n
  "".pushn '0' (width - digits.length) ++ digits

/-- A year: four digits, or a sign and at least four digits. -/
def formatYear (year : Int) : String :=
  if 0 ≤ year ∧ year ≤ 9999 then padded 4 year.toNat
  else if year < 0 then "-" ++ padded 4 year.natAbs
  else "+" ++ padded 4 year.toNat

/-- The places after the second, as few groups of three as hold it. -/
def formatFraction (nanos : Nat) : String :=
  if nanos = 0 then ""
  else if nanos % 1000000 = 0 then "." ++ padded 3 (nanos / 1000000)
  else if nanos % 1000 = 0 then "." ++ padded 6 (nanos / 1000)
  else "." ++ padded 9 nanos

/-- The written form in UTC. -/
def format (t : Timestamp) : String :=
  let date := dateOfDay (t.seconds.fdiv 86400)
  let clock := (t.seconds.fmod 86400).toNat
  let leap := t.nanos / 1000000000
  formatYear date.year ++ "-" ++ padded 2 date.month ++ "-" ++ padded 2 date.day ++ "T" ++
    padded 2 (clock / 3600) ++ ":" ++ padded 2 (clock / 60 % 60) ++ ":" ++
    padded 2 (clock % 60 + leap) ++ formatFraction (t.nanos % 1000000000) ++ "Z"

/-! ### Reading -/

/-- Reads one to `width` digits; without a `width`, as many as there are. -/
def number? (width : Option Nat) (text : List Char) : Option (Nat × List Char) :=
  let digits := text.takeWhile Char.isDigit
  let digits := match width with
    | some width => digits.take width
    | none => digits
  if digits.isEmpty then none
  else some (digits.foldl (fun n c => n * 10 + (c.toNat - '0'.toNat)) 0, text.drop digits.length)

/-- Reads a number of at most two digits within bounds, after blanks. -/
def part? (least greatest : Nat) (text : List Char) : Option (Nat × List Char) := do
  let (n, rest) ← number? (some 2) (Text.trimStart text)
  if least ≤ n ∧ n ≤ greatest then some (n, rest) else none

/-- Reads a character, after blanks. -/
def sign? (c : Char) (text : List Char) : Option (List Char) :=
  match Text.trimStart text with
  | d :: rest => if c = d then some rest else none
  | [] => none

/-- Reads a year, after blanks: up to four digits, or a sign and any number of digits. -/
def year? (text : List Char) : Option (Int × List Char) :=
  match Text.trimStart text with
  | '-' :: rest => (number? none rest).map fun (n, rest) => (-(n : Int), rest)
  | '+' :: rest => (number? none rest).map fun (n, rest) => ((n : Int), rest)
  | text => (number? (some 4) text).map fun (n, rest) => ((n : Int), rest)

/-- Reads the places after the second, if a point follows; places after the ninth are dropped. -/
def fraction? (text : List Char) : Option (Nat × List Char) :=
  match text with
  | '.' :: rest => do
    let (n, after) ← number? (some 9) rest
    let places := rest.length - after.length
    some (n * Nat.pow 10 (9 - places), after.dropWhile Char.isDigit)
  | _ => some (0, text)

/-- Reads exactly two digits. -/
def twoDigits? : List Char → Option (Nat × List Char)
  | a :: b :: rest =>
    if a.isDigit && b.isDigit then
      some ((a.toNat - '0'.toNat) * 10 + (b.toNat - '0'.toNat), rest)
    else none
  | _ => none

/-- Reads an offset from UTC as seconds: `Z`, `UTC`, or a sign, hours and minutes. -/
def offset? (text : List Char) : Option (Int × List Char) :=
  let named := text.take 3 |>.map Char.toUpper
  if named = ['U', 'T', 'C'] then some (0, text.drop 3)
  else
    match text with
    | [] => none
    | c :: rest =>
      if c = 'Z' || c = 'z' then some (0, rest)
      else if c = '+' || c = '-' || c = '\u2212' then do
        let (hours, rest) ← twoDigits? rest
        let (minutes, rest) ← twoDigits? (rest.dropWhile fun c => c = ':' || Text.isBlank c)
        let seconds : Int := hours * 3600 + minutes * 60
        if minutes ≤ 59 ∧ seconds < 86400 then some (if c = '+' then seconds else -seconds, rest)
        else none
      else none

/-- Reads a point in time, which must be one that can be told, in UTC and as written. -/
def parse? (text : String) : Option Timestamp := do
  let (year, rest) ← year? text.toList
  let rest ← sign? '-' rest
  let (month, rest) ← part? 1 12 rest
  let rest ← sign? '-' rest
  let (day, rest) ← part? 1 31 rest
  let rest ← match rest with
    | c :: rest => if c = 'T' || c = 't' || c = ' ' then some rest else none
    | [] => none
  let (hour, rest) ← part? 0 23 rest
  let rest ← sign? ':' rest
  let (minute, rest) ← part? 0 59 rest
  let rest ← sign? ':' rest
  let (second, rest) ← part? 0 60 rest
  let (nanos, rest) ← fraction? rest
  let (offset, rest) ← offset? (Text.trimStart rest)
  let date : Date := ⟨year, month, day⟩
  let clock : Int := hour * 3600 + minute * 60 + (min second 59 : Nat)
  let seconds := dayOfDate date * 86400 + clock - offset
  let isTold := firstYear ≤ year && year ≤ lastYear && firstSecond ≤ seconds && seconds ≤ lastSecond
  if date.isValid && isTold && (Text.trimStart rest).isEmpty then
    some ⟨seconds, if second = 60 then nanos + 1000000000 else nanos⟩
  else none

end Timestamp

end TodoLedger.Time
