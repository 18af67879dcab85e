import TodoLedger.Time.Calendar
import TodoLedger.Toml.Text
import TodoLedger.Toml.Tree

/-!
# Numbers, dates and words of settings

Only the form of numbers, dates and times is checked, and that they are in their ranges; nothing
reads them. An integer fits into 64 bits with a sign.
-/

namespace TodoLedger.Toml

/-! ### Numbers -/

/-- Reads digits with single underscores between them; gives the digits. -/
def digitsOf? (isDigit : Char → Bool) : Reader (List Char) := fun text =>
  let run := text.takeWhile fun c => isDigit c || c = '_'
  let groups := (String.ofList run).splitOn "_"
  if run.isEmpty || groups.any (·.isEmpty) then none
  else some (run.filter (· ≠ '_'), text.drop run.length)

/-- Reads a sign; true for a minus. -/
def sign : List Char → Bool × List Char
  | '-' :: rest => (true, rest)
  | '+' :: rest => (false, rest)
  | rest => (false, rest)

/-- Reads the digits of a decimal integer, which do not start with a zero unless it is alone. -/
def whole? (text : List Char) : Option (List Char × List Char) :=
  match text with
  | '0' :: rest => some (['0'], rest)
  | text => digitsOf? Char.isDigit text

/-- Reads the places after the point. -/
def places? : Reader (List Char)
  | '.' :: rest => digitsOf? Char.isDigit rest
  | _ => none

/-- Reads an exponent. -/
def exponent? : Reader Int
  | c :: rest =>
    if c = 'e' || c = 'E' then
      let (negative, rest) := sign rest
      (digitsOf? Char.isDigit rest).map fun (digits, rest) =>
        let n : Int := Json.digitsValue digits
        (if negative then -n else n, rest)
    else none
  | [] => none

/-- Reads a number with places or an exponent. One too large for a binary fraction is refused,
unless it is negative. -/
def real? (text : List Char) : Option (Toml × List Char) := do
  let (negative, rest) := sign text
  let (digits, rest) ← whole? rest
  let (places, exponent, rest) ←
    match places? rest with
    | some (places, rest) =>
      match exponent? rest with
      | some (exponent, rest) => some (places, exponent, rest)
      | none => some (places, 0, rest)
    | none => (exponent? rest).map fun (exponent, rest) => ([], exponent, rest)
  let mantissa := Json.digitsValue (digits ++ places)
  if negative || (Binary64.ofDecimal? false mantissa (exponent - places.length)).isSome then some (.number, rest)
  else none

/-- Reads an infinity, or what is no number. -/
def special? (text : List Char) : Option (Toml × List Char) :=
  match (sign text).2 with
  | 'i' :: 'n' :: 'f' :: rest => some (.number, rest)
  | 'n' :: 'a' :: 'n' :: rest => some (.number, rest)
  | _ => none

/-- The number that digits of a base write. -/
def valueIn (base : Nat) (digits : List Char) : Nat :=
  digits.foldl (fun n c => n * base + (Json.hexValue? c).getD 0) 0

/-- Reads an integer of a base other than ten. -/
def based? (base : Nat) : Reader Toml := fun text =>
  match digitsOf? (fun c => (Json.hexValue? c).any (· < base)) text with
  | some (digits, rest) => if valueIn base digits < Nat.pow 2 63 then some (.number, rest) else none
  | none => none

/-- Reads an integer. -/
def integer? : Reader Toml
  | '0' :: 'x' :: rest => based? 16 rest
  | '0' :: 'o' :: rest => based? 8 rest
  | '0' :: 'b' :: rest => based? 2 rest
  | text =>
    let (negative, rest) := sign text
    match whole? rest with
    | some (digits, rest) =>
      if Json.digitsValue digits < Nat.pow 2 63 + (if negative then 1 else 0) then some (.number, rest)
      else none
    | none => none

/-! ### Dates and times -/

/-- Reads a number of so many digits. -/
def fixed? (count : Nat) : Reader Nat := fun text =>
  let digits := text.take count
  if digits.length = count && digits.all Char.isDigit then
    some (Json.digitsValue digits, text.drop count)
  else none

/-- Reads a character. -/
def char? (c : Char) : List Char → Option (List Char)
  | d :: rest => if c = d then some rest else none
  | [] => none

/-- Reads a date. -/
def date? (text : List Char) : Option (List Char) := do
  let (year, rest) ← fixed? 4 text
  let (month, rest) ← fixed? 2 (← char? '-' rest)
  let (day, rest) ← fixed? 2 (← char? '-' rest)
  let date : Time.Date := ⟨year, month, day⟩
  if date.isValid then some rest else none

/-- Reads a time of day. -/
def clock? (text : List Char) : Option (List Char) := do
  let (hour, rest) ← fixed? 2 text
  let (minute, rest) ← fixed? 2 (← char? ':' rest)
  let (second, rest) ← fixed? 2 (← char? ':' rest)
  if hour ≤ 23 ∧ minute ≤ 59 ∧ second ≤ 60 then
    match rest with
    | '.' :: after =>
      let places := after.takeWhile Char.isDigit
      if places.isEmpty then none else some (after.drop places.length)
    | rest => some rest
  else none

/-- Reads an offset from UTC. -/
def offset? : List Char → Option (List Char)
  | [] => none
  | c :: rest =>
    if c = 'Z' || c = 'z' then some rest
    else if c = '+' || c = '-' then do
      let (hours, rest) ← fixed? 2 rest
      let (minutes, rest) ← fixed? 2 (← char? ':' rest)
      if hours ≤ 23 ∧ minutes ≤ 59 then some rest else none
    else none

/-- Reads the time of day after a date, with an offset or without. -/
def clockAfterDate? : List Char → Option (List Char)
  | c :: rest =>
    if c = 'T' || c = 't' || c = ' ' then
      (clock? rest).map fun rest => (offset? rest).getD rest
    else none
  | [] => none

/-- Reads a date, a time, or both. -/
def moment? (text : List Char) : Option (Toml × List Char) :=
  match date? text with
  | some rest => some (.moment, (clockAfterDate? rest).getD rest)
  | none => (clock? text).map (.moment, ·)

/-! ### All scalars -/

/-- Reads a truth value. -/
def bool? : Reader Toml
  | 't' :: 'r' :: 'u' :: 'e' :: rest => some (.bool true, rest)
  | 'f' :: 'a' :: 'l' :: 's' :: 'e' :: rest => some (.bool false, rest)
  | _ => none

/-- Reads a value that holds no others. -/
def scalar? (text : List Char) : Option (Toml × List Char) :=
  ((string? text).map fun (value, rest) => (.string value, rest)) <|> bool? text <|> moment? text <|>
    real? text <|> special? text <|> integer? text

end TodoLedger.Toml
