import TodoLedger.Text.Alphanumeric

/-!
# Handles in a line

A handle is a word of ASCII letters, digits and underscores, with single or repeated dots and
hyphens allowed inside but not at its ends. A mention is an `@` and the handle that follows it. It
counts only at the start of a word: not after a letter or number of any script, an underscore, a
dot or another `@`.

A line *opens* with a run of mentions when nothing but spaces and tabs precedes the first of them
and nothing but spaces, tabs and commas stands between them. `occurrences` lists the mentions of a
line, each with the mark whether it belongs to that run.
-/

namespace TodoLedger.Mention

open TodoLedger.Text

/-- The characters that a handle starts and ends with. -/
def isWordChar (c : Char) : Bool := c.isAlphanum || c = '_'

/-- The characters of a handle. -/
def isHandleChar (c : Char) : Bool := isWordChar c || c = '.' || c = '-'

/-- The list without the dots and hyphens at its end. -/
def dropJoints : List Char → List Char
  | [] => []
  | c :: rest =>
    match dropJoints rest with
    | [] => if isWordChar c then [c] else []
    | kept => c :: kept

/-- The handle at the start of a text: the longest run of handle characters, without dots and
hyphens at its end, if its first character is a word character. -/
def handle? (text : List Char) : Option (List Char) :=
  match text with
  | [] => none
  | c :: _ => if isWordChar c then some (dropJoints (text.takeWhile isHandleChar)) else none

/-- True of the characters after which an `@` does not start a mention. -/
def joins (c : Char) : Bool := isAlphanumeric c || c = '_' || c = '.' || c = '@'

/-- A space or a tab. -/
def isIndent (c : Char) : Bool := c = ' ' || c = '\t'

/-- The characters between the mentions of an opening run. -/
def isSeparator (c : Char) : Bool := c = ' ' || c = '\t' || c = ','

/-- True when the text consists of groups, each an `@`, a handle and separators. The first
argument bounds the number of groups. -/
def isGroups : Nat → List Char → Bool
  | _, [] => true
  | 0, _ :: _ => false
  | bound + 1, c :: rest =>
    c = '@' &&
      match handle? rest with
      | none => false
      | some handle => isGroups bound ((rest.drop handle.length).dropWhile isSeparator)

/-- True when a mention that follows the text belongs to the run that opens the line: the text is
spaces and tabs, and then groups of mentions. -/
def isOpening (before : List Char) : Bool :=
  isGroups before.length (before.dropWhile isIndent)

/-- A mention found in a line. -/
structure Occurrence where
  handle : String
  /-- The mention belongs to the run that opens the line. -/
  opening : Bool
deriving DecidableEq, Repr

/-- The mentions in the rest of a line, where `reversed` holds what precedes it, last character
first. -/
def occurrencesAfter (reversed : List Char) : List Char → List Occurrence
  | [] => []
  | c :: rest =>
    let later := occurrencesAfter (c :: reversed) rest
    if c = '@' && !reversed.head?.any joins then
      match handle? rest with
      | some handle => ⟨String.ofList handle, isOpening reversed.reverse⟩ :: later
      | none => later
    else later

/-- The mentions of a line, from left to right. -/
def occurrences (line : List Char) : List Occurrence := occurrencesAfter [] line

end TodoLedger.Mention
