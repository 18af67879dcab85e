import TodoLedger.Json.Value

/-!
# Records in JSON

A record is written as an object, field by field in any order, or as the list of its values in
declared order, in which the last ones may be missing. `Record.ofJson?` brings both forms to named
values; a field that is given twice is refused, one that is not declared is ignored. What a missing
field means is up to the field: `required` refuses it, `withDefault` fills it in, and `nullable`
takes it as absent in the first form only.

A choice between named cases is a text or an object whose one field is the name (`name?`), and a
choice between records is a record with one more field, the tag (`Tagged.ofJson?`). Inside of a
tagged record everything has been read before its case is known; such a value is *held*. A held
tag may also be the position of the case, and a held name may come with an empty object.
-/

namespace TodoLedger.Json

/-- Whether a value stands alone, or inside of a tagged record. -/
inductive Setting where
  | direct
  | held
deriving DecidableEq, Repr

/-- The named values of a record. -/
structure Record where
  values : List (String × Json)
  /-- The values were given in declared order, without names. -/
  positional : Bool

namespace Record

/-- True when the name belongs to two fields. -/
def isRepeated (fields : List (String × Json)) (name : String) : Bool :=
  1 < (fields.filter (·.1 = name)).length

/-- Reads a record with the declared field names. -/
def ofJson? (names : List String) : Json → Option Record
  | .object fields => if names.any (isRepeated fields) then none else some ⟨fields, false⟩
  | .list items => if names.length < items.length then none else some ⟨names.zip items, true⟩
  | _ => none

/-- The value of a field that must be there. -/
def required {α : Type} (r : Record) (name : String) (decode : Json → Option α) : Option α :=
  match r.values.lookup name with
  | some value => decode value
  | none => none

/-- The value of a field that may be missing. -/
def withDefault {α : Type} (r : Record) (name : String) (default : α) (decode : Json → Option α) :
    Option α :=
  match r.values.lookup name with
  | some value => decode value
  | none => some default

/-- The value of a field that may be `null`, or missing from an object. -/
def nullable {α : Type} (r : Record) (name : String) (decode : Json → Option α) :
    Option (Option α) :=
  match r.values.lookup name with
  | some value => option? decode value
  | none => if r.positional then none else some none

end Record

/-- Reads the name of a case. -/
def name? (setting : Setting) : Json → Option String
  | .string name => some name
  | .object [(name, .null)] => some name
  | .object [(name, .object [])] => if setting = .held then some name else none
  | _ => none

/-- A record with its tag taken out. -/
structure Tagged where
  tag : Json
  rest : Json

/-- Takes the tag out of a tagged record; in the form of a list it comes first. -/
def Tagged.ofJson? (tagName : String) : Json → Option Tagged
  | .object fields =>
    match fields.filter (·.1 = tagName) with
    | [(_, tag)] => some ⟨tag, .object (fields.filter (·.1 ≠ tagName))⟩
    | _ => none
  | .list (tag :: rest) => some ⟨tag, .list rest⟩
  | _ => none

/-- Reads a tag as one of the given case names. -/
def tag? (setting : Setting) (names : List String) : Json → Option String
  | .string name => if names.contains name then some name else none
  | .int position =>
    if setting = .held ∧ 0 ≤ position then names[position.toNat]? else none
  | _ => none

end TodoLedger.Json
