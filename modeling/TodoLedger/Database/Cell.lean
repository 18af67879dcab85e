import TodoLedger.Binary64
import TodoLedger.Error
import TodoLedger.Json.Parser

/-!
# Cells

Ids are kept in rows as signed 64-bit numbers with the same bits (`rowId`, `idOfRow`). A column for
integers takes any value (`Cell.ofJson?`): what looks like a number is kept as one, and only what is
no whole number of 64 bits stays as it is. Such a cell differs from every integer, has its place in
the order of cells, and fails the reader that wants an integer (`Cell.integer?`).
-/

namespace TodoLedger

/-! ### Ids in rows -/

/-- The form of an id in a row: the same bits, with a sign. -/
def rowId (id : UInt64) : Int64 := id.toInt64

/-- The id that a row holds. -/
def idOfRow (id : Int64) : UInt64 := id.toUInt64

/-- An id that is stored is read back. -/
@[simp] theorem idOfRow_rowId (id : UInt64) : idOfRow (rowId id) = id := by
  simp [idOfRow, rowId]

/-- A stored id is the one that it is read as. -/
@[simp] theorem rowId_idOfRow (id : Int64) : rowId (idOfRow id) = id := by
  simp [idOfRow, rowId]

/-! ### Cells -/

/-- What a column for integers holds in a row. -/
inductive Cell where
  | integer (value : Int64)
  /-- A number that is no integer of 64 bits. -/
  | real (value : Binary64)
  /-- A text that is no number. -/
  | text (value : String)
deriving DecidableEq, Repr

namespace Cell

/-- An id in a cell. -/
def ofId (id : UInt64) : Cell := .integer (rowId id)

/-- A number of which it is not known whether it is whole. -/
def ofBinary64 (x : Binary64) : Cell :=
  match x.toInt? with
  | some n =>
    if Int64.minValue.toInt < n ∧ n < Int64.maxValue.toInt then .integer (Int64.ofInt n) else .real x
  | none => .real x

/-- The integer in the cell; what is none is refused. -/
def integer? : Cell → Except Cause Int64
  | .integer value => .ok value
  | .real _ | .text _ => .error .refused

/-- The id in the cell. -/
def id? (cell : Cell) : Except Cause UInt64 := cell.integer?.map idOfRow

/-- An integer is read as it is stored. -/
@[simp] theorem integer?_integer (value : Int64) : integer? (.integer value) = .ok value := rfl

/-- Only an integer is read as one. -/
theorem eq_of_integer? {cell : Cell} {value : Int64} (h : cell.integer? = .ok value) :
    cell = .integer value := by
  cases cell <;> cases h
  rfl

/-- A reference to a row is read back. -/
@[simp] theorem id?_ofId (id : UInt64) : id? (ofId id) = .ok id := by
  simp [id?, ofId, Except.map]

/-! ### Order -/

/-- The steps of a number on one scale. -/
def steps? : Cell → Option Int
  | .integer value => some (Binary64.ofInt value.toInt).steps
  | .real value => some value.steps
  | .text _ => none

/-- True when a cell comes before another one: numbers by their size, then texts. -/
def isBelow (a b : Cell) : Bool :=
  match a, b with
  | .integer m, .integer n => m < n
  | .text s, .text t => s < t
  | a, b =>
    match a.steps?, b.steps? with
    | some m, some n => m < n
    | some _, none => true
    | none, _ => false

/-! ### Numbers in texts -/

/-- A number as it is written: without an exponent it is an integer. -/
structure Numeral where
  negative : Bool
  mantissa : Nat
  exponent : Option Int

/-- True of the blanks that may stand around a number. -/
def isSpace (c : Char) : Bool := c = ' ' || (9 ≤ c.toNat && c.toNat ≤ 13)

/-- The text without the blanks around it. -/
def trim (text : List Char) : List Char :=
  ((text.dropWhile isSpace).reverse.dropWhile isSpace).reverse

/-- A sign, true for a minus, and the text behind it. -/
def sign : List Char → Bool × List Char
  | '-' :: rest => (true, rest)
  | '+' :: rest => (false, rest)
  | rest => (false, rest)

/-- The exponent that a text writes, if it writes one; zero for no text. -/
def exponent? : List Char → Option Int
  | [] => some 0
  | c :: rest =>
    let (negative, digits) := sign rest
    if (c = 'e' || c = 'E') && !digits.isEmpty && digits.all Char.isDigit then
      let value : Int := Json.digitsValue digits
      some (if negative then -value else value)
    else none

/-- The number that a text writes: digits, perhaps with a sign, a point and an exponent, perhaps
between blanks. -/
def numeral? (text : List Char) : Option Numeral :=
  let (negative, number) := sign (trim text)
  let whole := number.takeWhile Char.isDigit
  match number.drop whole.length with
  | '.' :: rest =>
    let places := rest.takeWhile Char.isDigit
    if whole.isEmpty && places.isEmpty then none
    else (exponent? (rest.drop places.length)).map fun exponent =>
      ⟨negative, Json.digitsValue (whole ++ places), some (exponent - places.length)⟩
  | rest =>
    if whole.isEmpty then none
    else if rest.isEmpty then some ⟨negative, Json.digitsValue whole, none⟩
    else (exponent? rest).map fun exponent => ⟨negative, Json.digitsValue whole, some exponent⟩

namespace Numeral

/-- The number as a binary fraction, if that is finite. -/
def binary64? (n : Numeral) : Option Binary64 :=
  Binary64.ofDecimal? n.negative n.mantissa (n.exponent.getD 0)

/-- The number in a cell, unless it is infinite: an integer of 64 bits exactly. -/
def cell? (n : Numeral) : Option Cell :=
  let value : Int := if n.negative then -n.mantissa else n.mantissa
  if n.exponent.isNone && Int64.minValue.toInt ≤ value && value ≤ Int64.maxValue.toInt then
    some (.integer (Int64.ofInt value))
  else n.binary64?.map ofBinary64

end Numeral

/-! ### Values -/

/-- What a column for integers keeps of a value. -/
def ofJson? : Json → Option Cell
  | .bool value => some (.integer (if value then 1 else 0))
  | .int n => (numeral? (toString n).toList).bind Numeral.cell?
  | .real digits => (numeral? digits.toList).bind Numeral.cell?
  | .string value => some (((numeral? value.toList).bind Numeral.cell?).getD (.text value))
  | .null | .list _ | .object _ => none

/-- What a column for texts keeps of a value. -/
def textOfJson? : Json → Option String
  | .bool value => some (if value then "1" else "0")
  | .int n =>
    if Int64.minValue.toInt ≤ n ∧ n ≤ Int64.maxValue.toInt then some (toString n)
    else ((numeral? (toString n).toList).bind Numeral.binary64?).map (Binary64.text 15)
  | .real digits => ((numeral? digits.toList).bind Numeral.binary64?).map (Binary64.text 15)
  | .string value => some value
  | .null | .list _ | .object _ => none

/-- The cell as a value that `ofJson?` reads. -/
def toJson : Cell → Json
  | .integer value => .int value.toInt
  | .real value => .real (value.text 17)
  | .text value => .string value

end Cell

end TodoLedger
