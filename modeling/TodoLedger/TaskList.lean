import TodoLedger.Text.Blank
import TodoLedger.Text.Digit
import TodoLedger.Text.Line

/-!
# Task lists

A task-list item is a line that starts with a list marker and a checkbox: spaces and tabs, a
bullet or a number with `.` or `)`, at least one space or tab, and then a space or an `x` between
brackets. Ticking boxes is no change of the text, so two bodies are compared with every box
unticked, white space dropped from the ends of lines, and empty lines dropped from the end
(`onlyStatesChanged`).
-/

namespace TodoLedger.TaskList

open TodoLedger.Text

/-- A space or a tab, the only white space inside a list marker. -/
def isGap (c : Char) : Bool := c = ' ' || c = '\t'

/-- What may stand in a checkbox. -/
def isBox (c : Char) : Bool := c = ' ' || c = 'x' || c = 'X'

/-- Splits a bullet, or a number with its `.` or `)`, from the start of a line. -/
def marker? (line : List Char) : Option (List Char × List Char) :=
  match line with
  | [] => none
  | c :: rest =>
    if c = '-' || c = '*' || c = '+' then some ([c], rest)
    else
      match line.takeWhile isDigit, line.dropWhile isDigit with
      | [], _ => none
      | _, [] => none
      | digits, d :: rest => if d = '.' || d = ')' then some (digits ++ [d], rest) else none

/-- The parts of a task-list item: what precedes the checkbox, the character in it, and what
follows it. -/
structure Item where
  lead : List Char
  box : Char
  rest : List Char

/-- Reads a line as a task-list item. -/
def Item.ofLine? (line : List Char) : Option Item :=
  match marker? (line.dropWhile isGap) with
  | none => none
  | some (mark, afterMark) =>
    match afterMark.takeWhile isGap, afterMark.dropWhile isGap with
    | g :: gap, '[' :: c :: ']' :: rest =>
      if isBox c then some ⟨line.takeWhile isGap ++ mark ++ g :: gap, c, rest⟩ else none
    | _, _ => none

/-- The line of an item with `c` in its checkbox. -/
def Item.lineWith (item : Item) (c : Char) : List Char :=
  item.lead ++ '[' :: c :: ']' :: item.rest

/-- The line with its checkbox, if it has one, unticked. -/
def untick (line : List Char) : List Char :=
  match Item.ofLine? line with
  | some item => item.lineWith ' '
  | none => line

/-- The list without the empty lines at its end. -/
def dropEmptyEnd (lines : List (List Char)) : List (List Char) :=
  match lines with
  | [] => []
  | line :: rest =>
    match dropEmptyEnd rest with
    | [] => if line.isEmpty then [] else [line]
    | kept => line :: kept

/-- The lines of a body with every box unticked, without white space at the end of a line and
without empty lines at the end. -/
def settled (text : List Char) : List (List Char) :=
  dropEmptyEnd ((lines text).map fun line => trimEnd (untick line))

/-- True when the two bodies differ at most in their checkboxes and in white space at the ends of
lines and of the body. -/
def onlyStatesChanged (old new : String) : Bool := settled old.toList == settled new.toList

end TodoLedger.TaskList
