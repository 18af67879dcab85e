/-!
# Binary fractions of 64 bits

A `Binary64` is a finite binary fraction of 64 bits, as a whole number of the least steps between
any two of them. `Binary64.ofDecimal?` gives the nearest one to a decimal number, and none where that
is infinite; `Binary64.text` writes one with a given number of digits.
`Binary64.isFiniteProduct` answers for numbers that are reckoned as the product of their digits and
a power of ten, both of them rounded before.
-/

namespace TodoLedger

/-- A finite binary fraction of 64 bits. -/
structure Binary64 where
  /-- The value in steps of `2 ^ -1074`. -/
  steps : Int
deriving DecidableEq, Repr

namespace Binary64

/-- How often one is halved to come to a step. -/
def depth : Nat := 1074

/-- The number of steps in one. -/
def one : Nat := Nat.pow 2 depth

/-! ### Rounding -/

/-- The whole number nearest to a fraction that has at most 53 binary digits before its zeros; of
two, the even one. -/
def roundRatio (numerator denominator : Nat) : Nat :=
  let unit := Nat.pow 2 ((numerator / denominator).log2 + 1 - 53)
  let size := unit * denominator
  let quotient := numerator / size
  let rest := numerator % size
  if size < 2 * rest || (size = 2 * rest && quotient % 2 = 1) then (quotient + 1) * unit
  else quotient * unit

/-- The number of decimal digits. -/
def digitCount (n : Nat) : Nat := (Nat.toDigits 10 n).length

/-- The binary fraction nearest to `mantissa * 10 ^ exponent`, unless that is infinite. The number of
digits decides where the number is far too large or too small. -/
def ofDecimal? (negative : Bool) (mantissa : Nat) (exponent : Int) : Option Binary64 :=
  let size := digitCount mantissa + exponent
  if mantissa = 0 || size < -330 then some ⟨0⟩
  else if 310 < size then none
  else
    let steps :=
      roundRatio (mantissa * Nat.pow 10 exponent.toNat * one) (Nat.pow 10 (-exponent).toNat)
    if steps < Nat.pow 2 1024 * one then some ⟨if negative then -steps else steps⟩ else none

/-- True when the rounded `mantissa` times the rounded `10 ^ exponent` is finite: below half a step
above the largest finite number. No power of ten above the 308th is finite itself. -/
def isFiniteProduct (mantissa : Nat) (exponent : Int) : Bool :=
  if mantissa = 0 || exponent < 0 then true
  else if 308 < exponent then false
  else
    roundRatio mantissa 1 * roundRatio (Nat.pow 10 exponent.toNat) 1 < Nat.pow 2 1024 - Nat.pow 2 970

/-! ### Whole numbers -/

/-- The whole number that it is, if it is one. -/
def toInt? (x : Binary64) : Option Int :=
  if x.steps % one = 0 then some (x.steps / one) else none

/-- A whole number, exactly. -/
def ofInt (n : Int) : Binary64 := ⟨n * one⟩

/-- One is not zero. -/
theorem one_ne_zero : one ≠ 0 := by
  have hpow (n : Nat) : Nat.pow 2 n ≠ 0 := Nat.ne_of_gt (Nat.pow_pos Nat.two_pos)
  unfold one
  exact hpow depth

/-- Whole numbers are read back. -/
@[simp] theorem toInt?_ofInt (n : Int) : toInt? (ofInt n) = some n := by
  have h : (one : Int) ≠ 0 := Int.ofNat_ne_zero.2 one_ne_zero
  have hmod : (ofInt n).steps % one = 0 := Int.mul_emod_left n one
  have hdiv : (ofInt n).steps / one = n := Int.mul_ediv_cancel n h
  rw [toInt?, if_pos hmod, hdiv]

/-! ### Writing -/

/-- The place of the first digit: the greatest power of ten that is not above the number. The first
argument bounds how many places after the point are tried. -/
def leadingPlace : Nat → Nat → Int
  | 0, _ => 0
  | bound + 1, steps =>
    if one ≤ steps then (digitCount (steps / one) : Int) - 1
    else leadingPlace bound (steps * 10) - 1

/-- The digits of a number, rounded to `count` of them, without zeros at their end, and the place of
the first one. -/
def significantDigits (count : Nat) (steps : Nat) : List Char × Int :=
  let place := leadingPlace 400 steps
  let shift := (count : Int) - 1 - place
  let scaled := steps * Nat.pow 10 shift.toNat
  let size := one * Nat.pow 10 (-shift).toNat
  let rounded := (2 * scaled + size) / (2 * size)
  let digits := Nat.toDigits 10 rounded
  let kept := (digits.take count).reverse.dropWhile (· = '0')
  (kept.reverse, place + (digits.length - count))

/-- The exponent of a number in text: a sign and at least two digits. -/
def exponentText (exponent : Int) : String :=
  let digits := toString exponent.natAbs
  (if exponent < 0 then "-" else "+") ++ "".pushn '0' (2 - digits.length) ++ digits

/-- The number in decimal, with at most `count` digits: with an exponent if it is small, or large for
that number of digits. A point is always there. -/
def text (count : Nat) (x : Binary64) : String :=
  if x.steps = 0 then "0.0"
  else
    let (digits, place) := significantDigits count x.steps.natAbs
    let after (rest : List Char) : String := "." ++ String.ofList (if rest.isEmpty then ['0'] else rest)
    let body :=
      if place < -4 || (count : Int) - 1 < place then
        String.ofList (digits.take 1) ++ after (digits.drop 1) ++ "e" ++ exponentText place
      else if place < 0 then
        "0." ++ "".pushn '0' (-place - 1).toNat ++ String.ofList digits
      else
        let whole := digits.take (place.toNat + 1)
        String.ofList whole ++ "".pushn '0' (place.toNat + 1 - whole.length) ++
          after (digits.drop (place.toNat + 1))
    (if x.steps < 0 then "-" else "") ++ body

end Binary64

end TodoLedger
