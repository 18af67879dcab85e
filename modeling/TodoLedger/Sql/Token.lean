import TodoLedger.Json.Parser
import TodoLedger.Sql.Name

/-!
# Tokens of statements

A statement is read as a list of lexemes: tokens, each with its place in the text. Blanks and
comments stand between tokens and mean nothing. `lexemes` ends at the first text that is no token,
with `Token.illegal`, which no statement contains.
-/

namespace TodoLedger.Sql

/-- The least part of a statement that means something. -/
inductive Token where
  /-- A word as it stands: a name, or a word of the language. -/
  | word (text : List Char)
  /-- A name in double quotes, backquotes or brackets. -/
  | name (text : List Char) (isDouble : Bool)
  /-- A text in single quotes. -/
  | string (text : List Char)
  | number (text : List Char)
  /-- A number with underscores between its digits. -/
  | grouped (text : List Char)
  /-- Bytes in hexadecimal. -/
  | bytes
  /-- An operator, a bracket or a mark. -/
  | sign (text : List Char)
  | illegal
deriving DecidableEq, Repr

/-- A token in a text, with all that stands from its start on and all that stands behind it. -/
structure Lexeme where
  token : Token
  start : List Char
  stop : List Char
deriving DecidableEq, Repr

/-! ### Gaps -/

/-- True of the blanks that can start a gap. -/
def startsGap (c : Char) : Bool := [' ', '\t', '\n', '\x0c', '\r', '\ufeff'].contains c

/-- True of the blanks that can follow in a gap. -/
def isBlank (c : Char) : Bool := c = ' ' || (9 ≤ c.toNat && c.toNat ≤ 13)

/-- The text behind the end of a comment. A comment without an end goes on to the end of the text. -/
def afterComment : List Char → List Char
  | '*' :: '/' :: rest => rest
  | _ :: rest => afterComment rest
  | [] => []

/-- The text behind the next `fuel` blanks and comments. -/
def afterGap : Nat → List Char → List Char
  | 0, text => text
  | _ + 1, [] => []
  | fuel + 1, c :: rest =>
    if startsGap c then afterGap fuel (rest.dropWhile isBlank)
    else
      match c, rest with
      | '-', '-' :: comment => afterGap fuel (comment.dropWhile (· ≠ '\n'))
      | '/', '*' :: first :: comment => afterGap fuel (afterComment (first :: comment))
      | _, _ => c :: rest

/-! ### Numbers -/

/-- True of the sixteen digits, small or capital. -/
def isHexDigit (c : Char) : Bool := (Json.hexValue? c).isSome

/-- True when each underscore stands between two digits. -/
def isGrouped (isDigit : Char → Bool) (text : List Char) : Bool :=
  text.getLast? ≠ some '_' &&
    (text.zip text.tail).all fun (a, b) => (b ≠ '_' || isDigit a) && (a ≠ '_' || isDigit b)

/-- The digits at the start of a text, with underscores. -/
def digitRun (isDigit : Char → Bool) (text : List Char) : List Char :=
  text.takeWhile fun c => isDigit c || c = '_'

/-- The places behind the point at the start of a text. -/
def placesRun : List Char → List Char
  | '.' :: rest => '.' :: digitRun Char.isDigit rest
  | _ => []

/-- The exponent at the start of a text. -/
def exponentRun : List Char → List Char
  | e :: c :: rest =>
    let isSigned := (c = '+' || c = '-') && rest.head?.any Char.isDigit
    if (e = 'e' || e = 'E') && (c.isDigit || isSigned) then e :: c :: digitRun Char.isDigit rest
    else []
  | _ => []

/-- The number at the start of a text. -/
def numberRun (text : List Char) : List Char :=
  let whole := digitRun Char.isDigit text
  let places := placesRun (text.drop whole.length)
  whole ++ places ++ exponentRun (text.drop (whole.length + places.length))

/-- The token of a number; a name cannot follow without a gap. -/
def numberToken (isDigit : Char → Bool) (number rest : List Char) : Token × List Char :=
  if rest.head?.any isNameRest then (.illegal, [])
  else if !number.contains '_' then (.number number, rest)
  else if isGrouped isDigit number then (.grouped number, rest)
  else (.illegal, [])

/-- Reads a number: decimal, or hexadecimal behind `0x`. -/
def nextNumber (text : List Char) : Token × List Char :=
  let decimal := numberRun text
  match text with
  | '0' :: x :: d :: rest =>
    if (x = 'x' || x = 'X') && isHexDigit d then
      let digits := digitRun isHexDigit (d :: rest)
      numberToken isHexDigit ('0' :: x :: digits) ((d :: rest).drop digits.length)
    else numberToken Char.isDigit decimal (text.drop decimal.length)
  | _ => numberToken Char.isDigit decimal (text.drop decimal.length)

/-! ### Quotes -/

/-- Splits a text at its closing quote; a quote inside stands twice. -/
def splitQuoted? (quote : Char) : List Char → Option (List Char × List Char)
  | [] => none
  | [c] => if c = quote then some ([], []) else none
  | c :: d :: rest =>
    if c ≠ quote then
      (splitQuoted? quote (d :: rest)).map fun (inside, after) => (c :: inside, after)
    else if d = quote then
      (splitQuoted? quote rest).map fun (inside, after) => (quote :: inside, after)
    else some ([], d :: rest)

/-- Reads what is in quotes. -/
def nextQuoted (quote : Char) (token : List Char → Token) (text : List Char) : Token × List Char :=
  match splitQuoted? quote text with
  | some (inside, rest) => (token inside, rest)
  | none => (.illegal, [])

/-- Reads a name in brackets. -/
def nextBracketed (text : List Char) : Token × List Char :=
  let inside := text.takeWhile (· ≠ ']')
  match text.drop inside.length with
  | _ :: rest => (.name inside false, rest)
  | [] => (.illegal, [])

/-- Reads bytes. -/
def nextBytes (text : List Char) : Token × List Char :=
  let digits := text.takeWhile isHexDigit
  match text.drop digits.length with
  | '\'' :: rest => if digits.length % 2 = 0 then (.bytes, rest) else (.illegal, [])
  | _ => (.illegal, [])

/-! ### Tokens -/

/-- The operators, brackets and marks of one character. -/
def singleSigns : List Char :=
  ['(', ')', ',', ';', '.', '=', '<', '>', '+', '-', '*', '/', '%', '&', '|', '~']

/-- The operators of two characters. -/
def doubleSigns : List (Char × Char) :=
  [('-', '>'), ('|', '|'), ('<', '<'), ('<', '='), ('<', '>'), ('>', '>'), ('>', '='), ('=', '='),
    ('!', '=')]

/-- Reads an operator, a bracket or a mark, as long as possible. -/
def nextSign : List Char → Token × List Char
  | '-' :: '>' :: '>' :: rest => (.sign ['-', '>', '>'], rest)
  | c :: d :: rest =>
    if doubleSigns.contains (c, d) then (.sign [c, d], rest)
    else if singleSigns.contains c then (.sign [c], d :: rest)
    else (.illegal, [])
  | [c] => if singleSigns.contains c then (.sign [c], []) else (.illegal, [])
  | [] => (.illegal, [])

/-- Reads a word. -/
def nextWord (text : List Char) : Token × List Char :=
  let word := text.takeWhile isNameRest
  (.word word, text.drop word.length)

/-- Reads the token at the start of a text. -/
def nextToken : List Char → Token × List Char
  | [] => (.illegal, [])
  | '\'' :: rest => nextQuoted '\'' .string rest
  | '"' :: rest => nextQuoted '"' (.name · true) rest
  | '\x60' :: rest => nextQuoted '\x60' (.name · false) rest
  | '[' :: rest => nextBracketed rest
  | 'x' :: '\'' :: rest | 'X' :: '\'' :: rest => nextBytes rest
  | c :: rest =>
    if c.isDigit || (c = '.' && rest.head?.any Char.isDigit) then nextNumber (c :: rest)
    else if isNameStart c then nextWord (c :: rest)
    else nextSign (c :: rest)

/-- At most `fuel` lexemes at the start of a text. -/
def lexemesUpTo : Nat → List Char → List Lexeme
  | 0, _ => []
  | fuel + 1, text =>
    match afterGap (fuel + 1) text with
    | [] => []
    | start@(_ :: _) =>
      let (token, stop) := nextToken start
      ⟨token, start, stop⟩ :: lexemesUpTo fuel stop

/-- The lexemes of a statement, which ends before a NUL. Each takes a character at least. -/
def lexemes (statement : List Char) : List Lexeme :=
  let text := statement.takeWhile (· ≠ '\x00')
  lexemesUpTo text.length text

end TodoLedger.Sql
