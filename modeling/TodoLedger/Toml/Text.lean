import TodoLedger.Json.Parser

/-!
# Words and strings of settings

Readers for blanks, comments, strings and keys. Every reader takes the characters ahead and gives
its result with the characters left.
-/

namespace TodoLedger.Toml

/-- What a reader gives: a result, with the characters left. -/
abbrev Reader (α : Type) := List Char → Option (α × List Char)

/-- The most names in a key, and the most levels of lists and braces. -/
def depthLimit : Nat := 79

/-! ### Blanks and comments -/

/-- The text without spaces and tabs at its start. -/
def skipBlanks (text : List Char) : List Char := text.dropWhile fun c => c = ' ' || c = '\t'

/-- True of the characters that are no controls. -/
def isPlain (c : Char) : Bool := c = '\t' || (32 ≤ c.toNat && c.toNat ≠ 127)

/-- The end of a line. -/
def lineBreak? : List Char → Option (List Char)
  | '\n' :: rest => some rest
  | '\r' :: '\n' :: rest => some rest
  | _ => none

/-- The text without a comment at its start. -/
def skipComment : List Char → List Char
  | '#' :: rest => rest.dropWhile isPlain
  | text => text

/-- What may follow on a line: blanks and a comment, up to the end of the line or of the text. -/
def lineEnd? (text : List Char) : Option (List Char) :=
  match skipComment (skipBlanks text) with
  | [] => some []
  | rest => lineBreak? rest

/-- The text without blanks, comments and line ends at its start. The first argument bounds the
number of lines. -/
def skipLines : Nat → List Char → List Char
  | 0, text => text
  | bound + 1, text =>
    let text := skipBlanks text
    match lineBreak? (skipComment text) with
    | some rest => skipLines bound rest
    | none => text

/-- The text without blanks, comments and line ends at its start. -/
def skipSpace (text : List Char) : List Char := skipLines (text.length + 1) text

/-! ### Strings -/

/-- Reads so many hexadecimal digits. -/
def hexDigits? (value : Nat) : Nat → Reader Nat
  | 0, text => some (value, text)
  | count + 1, c :: rest =>
    match Json.hexValue? c with
    | some digit => hexDigits? (value * 16 + digit) count rest
    | none => none
  | _ + 1, [] => none

/-- Reads a character by its number. -/
def codePoint? (digits : Nat) : Reader Char := fun text =>
  match hexDigits? 0 digits text with
  | some (n, rest) => if h : n.isValidChar then some (Char.ofNatAux n h, rest) else none
  | none => none

/-- Reads what follows the backslash of an escape. -/
def escape? : Reader Char
  | '"' :: rest => some ('"', rest)
  | '\\' :: rest => some ('\\', rest)
  | 'b' :: rest => some ('\x08', rest)
  | 'f' :: rest => some ('\x0c', rest)
  | 'n' :: rest => some ('\n', rest)
  | 'r' :: rest => some ('\r', rest)
  | 't' :: rest => some ('\t', rest)
  | 'u' :: rest => codePoint? 4 rest
  | 'U' :: rest => codePoint? 8 rest
  | _ => none

/-- The blanks and line ends that a backslash at the end of a line joins. -/
def skipJoined (text : List Char) : List Char :=
  let rec skip : Nat → List Char → List Char
    | 0, text => text
    | bound + 1, text =>
      match lineBreak? (skipBlanks text) with
      | some rest => skip bound rest
      | none => skipBlanks text
  skip (text.length + 1) text

/-- A kind of string: its quote, whether it has escapes, and whether it has lines. -/
structure Quoting where
  quote : Char
  escapes : Bool
  lines : Bool

/-- Reads a string after its opening quotes. The first number bounds the number of characters,
`reversed` holds those read so far. A string of lines ends with three quotes; up to two more before
them belong to it. -/
def stringAfter? (q : Quoting) (reversed : List Char) : Nat → Reader String
  | 0, _ => none
  | bound + 1, text =>
    match text with
    | [] => none
    | c :: rest =>
      if c = q.quote then
        if !q.lines then some (String.ofList reversed.reverse, rest)
        else
          let quotes := min 5 (text.takeWhile (· = q.quote)).length
          if quotes < 3 then stringAfter? q (c :: reversed) bound rest
          else
            some (String.ofList ((List.replicate (quotes - 3) c ++ reversed).reverse),
              text.drop quotes)
      else if q.escapes && c = '\\' then
        if q.lines && (lineBreak? (skipBlanks rest)).isSome then
          stringAfter? q reversed bound (skipJoined rest)
        else
          match escape? rest with
          | some (c, rest) => stringAfter? q (c :: reversed) bound rest
          | none => none
      else if isPlain c then stringAfter? q (c :: reversed) bound rest
      else if q.lines then
        match lineBreak? text with
        | some rest => stringAfter? q ('\n' :: reversed) bound rest
        | none => none
      else none

/-- Reads a string of one line. -/
def lineString? : Reader String
  | '"' :: rest => stringAfter? ⟨'"', true, false⟩ [] (rest.length + 1) rest
  | '\'' :: rest => stringAfter? ⟨'\'', false, false⟩ [] (rest.length + 1) rest
  | _ => none

/-- Reads a string; a line end right after three opening quotes does not belong to it. -/
def string? : Reader String
  | '"' :: '"' :: '"' :: rest =>
    stringAfter? ⟨'"', true, true⟩ [] (rest.length + 1) ((lineBreak? rest).getD rest)
  | '\'' :: '\'' :: '\'' :: rest =>
    stringAfter? ⟨'\'', false, true⟩ [] (rest.length + 1) ((lineBreak? rest).getD rest)
  | text => lineString? text

/-! ### Keys -/

/-- True of the characters of a name without quotes. -/
def isBare (c : Char) : Bool := c.isAlphanum || c = '_' || c = '-'

/-- Reads one name of a key. -/
def name? : Reader String
  | [] => none
  | c :: rest =>
    if c = '"' || c = '\'' then lineString? (c :: rest)
    else
      let bare := (c :: rest).takeWhile isBare
      if bare.isEmpty then none else some (String.ofList bare, (c :: rest).drop bare.length)

/-- Reads the names of a key with the points between them. The first argument bounds their
number. -/
def names? : Nat → Reader (List String)
  | 0, _ => none
  | bound + 1, text =>
    match name? (skipBlanks text) with
    | none => none
    | some (name, rest) =>
      match skipBlanks rest with
      | '.' :: rest => (names? bound rest).map fun (names, rest) => (name :: names, rest)
      | rest => some ([name], rest)

/-- Reads a key. -/
def key? (text : List Char) : Option (List String × List Char) := names? depthLimit text

end TodoLedger.Toml
