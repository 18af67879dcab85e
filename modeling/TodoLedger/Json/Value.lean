/-!
# JSON values

Values in the form in which events, targets and to-dos are exchanged. A number that is a 64-bit
integer, signed or unsigned, is kept as that integer; of any other number only its text is kept,
since nothing in this format is a fraction. The fields of an object stay in their written order,
repetitions included, so that a reader can refuse them.
-/

namespace TodoLedger

/-- A JSON value. -/
inductive Json where
  | null
  | bool (value : Bool)
  /-- An integer from `-2^63` to `2^64 - 1`. -/
  | int (value : Int)
  /-- Any other number, as written. -/
  | real (digits : String)
  | string (value : String)
  | list (items : List Json)
  | object (fields : List (String × Json))
deriving Inhabited

namespace Json

/-- An unsigned 64-bit id as a number. -/
def ofId (id : UInt64) : Json := .int id.toNat

/-- A list of ids. -/
def ofIds (ids : List UInt64) : Json := .list (ids.map ofId)

/-- The value, or `null` for none. -/
def ofOption {α : Type} (encode : α → Json) : Option α → Json
  | some a => encode a
  | none => .null

/-- Reads a non-negative integer below `2^64`. -/
def id? : Json → Option UInt64
  | .int value => if 0 ≤ value ∧ value < UInt64.size then some (UInt64.ofNat value.toNat) else none
  | _ => none

/-- Reads a text. -/
def text? : Json → Option String
  | .string value => some value
  | _ => none

/-- Reads a truth value. -/
def bool? : Json → Option Bool
  | .bool value => some value
  | _ => none

/-- Reads a list whose items are all readable. -/
def list? {α : Type} (decode : Json → Option α) : Json → Option (List α)
  | .list items => items.mapM decode
  | _ => none

/-- Reads a list of ids. -/
def ids? : Json → Option (List UInt64) := list? id?

/-- Reads `null` as none and anything else as a value. -/
def option? {α : Type} (decode : Json → Option α) : Json → Option (Option α)
  | .null => some none
  | value => (decode value).map some

/-- An id is read back. -/
@[simp] theorem id?_ofId (id : UInt64) : id? (ofId id) = some id := by
  have hlt : id.toNat < UInt64.size := id.toNat_lt
  have hle : (0 : Int) ≤ id.toNat ∧ (id.toNat : Int) < UInt64.size := by omega
  simp only [ofId, id?, if_pos hle, Int.toNat_natCast, UInt64.ofNat_toNat]

/-- A text is read back. -/
@[simp] theorem text?_string (value : String) : text? (.string value) = some value := rfl

/-- A truth value is read back. -/
@[simp] theorem bool?_bool (value : Bool) : bool? (.bool value) = some value := rfl

/-- A list that was encoded item by item reads back. -/
theorem list?_map {α : Type} {encode : α → Json} {decode : Json → Option α}
    (h : ∀ a, decode (encode a) = some a) (items : List α) :
    list? decode (.list (items.map encode)) = some items := by
  simp only [list?]
  induction items with
  | nil => rfl
  | cons a rest ih =>
    simp only [List.map_cons, List.mapM_cons, h, ih]
    rfl

/-- A list of ids is read back. -/
@[simp] theorem ids?_ofIds (ids : List UInt64) : ids? (ofIds ids) = some ids :=
  list?_map id?_ofId ids

/-- An optional value reads back, provided that no value is written as `null`. -/
theorem option?_ofOption {α : Type} {encode : α → Json} {decode : Json → Option α}
    (h : ∀ a, decode (encode a) = some a) (hnull : ∀ a, encode a ≠ .null) (value : Option α) :
    option? decode (ofOption encode value) = some value := by
  cases value with
  | none => rfl
  | some a =>
    have := hnull a
    have hd := h a
    simp only [ofOption]
    generalize encode a = j at this hd
    cases j <;> simp_all [option?]

end Json

end TodoLedger
