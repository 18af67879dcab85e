import TodoLedger.Text.Line

/-!
# Code in a text

Code is no prose, so a mention in it refers to nobody. A *fence* is a line that starts, after at
most three spaces, with three backticks or three tildes; fences alternately open and close a block.
An *inline span* reaches from a backtick to the next backtick of its line. `proseLines` drops the
fences and the lines between them, and blanks the inline spans of the lines that stay. A blanked line
has as many bytes as before.
-/

namespace TodoLedger.Mention

open TodoLedger.Text

/-- The backtick, which encloses inline code. -/
def tick : Char := '\x60'

/-- True of the line that opens or closes a block of code. -/
def isFence (line : List Char) : Bool :=
  let indent := line.takeWhile (· = ' ')
  let rest := line.dropWhile (· = ' ')
  indent.length ≤ 3 && (rest.take 3 == [tick, tick, tick] || rest.take 3 == ['~', '~', '~'])

/-- As many spaces as the character has bytes. -/
def blank (c : Char) : List Char := List.replicate c.utf8Size ' '

/-- There are only spaces in the place of a character. -/
theorem mem_blank {c d : Char} (h : d ∈ blank c) : d = ' ' := List.eq_of_mem_replicate h

/-- The line with its inline spans blanked; `inside` tells whether a span is open at its start. A
backtick without a partner opens no span. -/
def blankSpans (inside : Bool) : List Char → List Char
  | [] => []
  | c :: rest =>
    if inside then blank c ++ blankSpans (c ≠ tick) rest
    else if c = tick && rest.contains tick then blank c ++ blankSpans true rest
    else c :: blankSpans false rest

/-- The lines outside of blocks of code, their inline spans blanked; `fenced` tells whether a block
is open before the first line. -/
def unfenced (fenced : Bool) : List (List Char) → List (List Char)
  | [] => []
  | line :: rest =>
    if isFence line then unfenced (!fenced) rest
    else if fenced then unfenced fenced rest
    else blankSpans false line :: unfenced fenced rest

/-- The lines of a text in which mentions count: all of them, or those outside of code. -/
def proseLines (ignoreCode : Bool) (text : List Char) : List (List Char) :=
  if ignoreCode then unfenced false (lines text) else lines text

end TodoLedger.Mention
