import TodoLedger.Sql.Token

/-!
# Readers of lexemes

A `Reader` takes lexemes from the front of a list, or fails and takes none. The readers here are for
what occurs in many places: signs, words of the language, names, and lists.
-/

namespace TodoLedger.Sql

/-- Takes lexemes from the front of a list. -/
abbrev Reader := StateT (List Lexeme) Option

namespace Reader

variable {α : Type}

/-- Takes one lexeme, if `read` makes something of its token. -/
def token (read : Token → Option α) : Reader α := fun
  | [] => none
  | lexeme :: rest => (read lexeme.token).map (·, rest)

/-- Takes a token of any kind. -/
def anyToken : Reader Token := token some

/-- Takes a sign. -/
def sign (text : String) : Reader Unit :=
  token fun found => if found = .sign text.toList then some () else none

/-- Takes a word of the language, here given in small letters. -/
def word (text : String) : Reader Unit :=
  token fun
    | .word found => if found.map Char.toLower = text.toList then some () else none
    | _ => none

/-- Takes several words. -/
def words (texts : List String) : Reader Unit := texts.forM word

/-- True if the reader takes something. -/
def has (reader : Reader Unit) : Reader Bool := (do reader; pure true) <|> pure false

/-- Takes what the reader takes, or nothing. -/
def optional (reader : Reader α) : Reader (Option α) := (do return some (← reader)) <|> pure none

/-- Fails if the reader can take something. -/
def without (reader : Reader Unit) : Reader Unit := fun lexemes =>
  if (reader lexemes).isSome then none else some ((), lexemes)

/-- Takes what the reader takes, at most `fuel` times. -/
def upTo (reader : Reader α) : Nat → Reader (List α)
  | 0 => pure []
  | fuel + 1 => (do return (← reader) :: (← upTo reader fuel)) <|> pure []

/-- Takes what the reader takes, as often as it can. -/
def many (reader : Reader α) : Reader (List α) := do upTo reader (← get).length

/-- Takes one thing or more, with commas between them. -/
def list (reader : Reader α) : Reader (List α) := do
  return (← reader) :: (← many do sign ","; reader)

/-- Takes what stands in parentheses. -/
def inParentheses (reader : Reader α) : Reader α := do
  sign "("
  let value ← reader
  sign ")"
  return value

/-- The text of what the reader takes, without the gap in front of it. -/
def text (reader : Reader Unit) : Reader String := do
  let before ← get
  reader
  let taken := before.take (before.length - (← get).length)
  return match taken.head?, taken.getLast? with
    | some first, some last =>
      String.ofList (first.start.take (first.start.length - last.stop.length))
    | _, _ => ""

/-- What the reader makes of a text, up to its end or to the first semicolon behind it. -/
def run? (reader : Reader α) (text : List Char) : Option α := do
  let (value, rest) ← reader (lexemes text)
  match rest with
  | [] => some value
  | lexeme :: _ => if lexeme.token = .sign [';'] then some value else none

/-! ### Names -/

/-- True when a word is one of `words`, which are in small letters. -/
def isAmong (words : List String) (word : List Char) : Bool :=
  let lowered := word.map Char.toLower
  words.any (·.toList = lowered)

/-- True of the words that can be names of things. -/
def isThing (word : List Char) : Bool := !isAmong reservedWords word

/-- True of the words that can be names by themselves. -/
def isFree (word : List Char) : Bool := isThing word && !isAmong joinWords word

/-- Takes the name of a thing: a word, a quoted name or a text. -/
def name : Reader String :=
  token fun
    | .word text => if isThing text then some (String.ofList text) else none
    | .name text _ | .string text => some (String.ofList text)
    | _ => none

/-- Takes a part of a type, or the name of an order of texts. -/
def label : Reader String :=
  token fun
    | .word text =>
      if isFree text && !isAmong ["indexed"] text then some (String.ofList text) else none
    | .name text _ | .string text => some (String.ofList text)
    | _ => none

/-- Takes a number with or without a sign. -/
def signedNumber : Reader Unit := do
  let _ ← optional (sign "+" <|> sign "-")
  token fun
    | .number _ => some ()
    | _ => none

/-- Takes a type, if there is one, and gives it as it is written. -/
def typeText : Reader String :=
  text do
    let labels ← many label
    if !labels.isEmpty then
      if ← has (sign "(") then
        signedNumber
        if ← has (sign ",") then signedNumber
        sign ")"

end Reader

end TodoLedger.Sql
