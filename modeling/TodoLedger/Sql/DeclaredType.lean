import TodoLedger.Sql.Token

/-!
# Types of columns

A column can be declared with any words for a type, or with none. `reportedType` is what the
database says of it: one of the standard types in capitals, or the text as it was written, without
quotes.
-/

namespace TodoLedger.Sql

/-- The standard types. -/
def standardTypes : List String := ["ANY", "BLOB", "INT", "INTEGER", "REAL", "TEXT"]

/-- The text without an ending in small or capital letters, and without the blanks before it. -/
def withoutEnding? (ending : String) (text : String) : Option String :=
  let length := text.length - ending.length
  if folded (String.ofList (text.toList.drop length)) = ending.toList then
    some (String.ofList ((text.toList.take length).reverse.dropWhile isBlank).reverse)
  else none

/-- A type without the words that say that the column is computed. -/
def withoutGeneration (type : String) : String :=
  if type.utf8ByteSize < 16 then type
  else
    match withoutEnding? "always" type with
    | some shorter => (withoutEnding? "generated" shorter).getD shorter
    | none => type

/-- The closing quote for an opening one. -/
def closing? (c : Char) : Option Char :=
  if c = '[' then some ']'
  else if ['\'', '"', '\x60'].contains c then some c
  else none

/-- What is in the quotes at the start of a text, or the text if it starts with none. -/
def withoutQuotes (text : String) : String :=
  match text.toList with
  | [] => text
  | first :: rest =>
    match closing? first with
    | some quote => ((splitQuoted? quote rest).map fun (inside, _) => String.ofList inside).getD text
    | none => text

/-- The type that is reported for a declared one. -/
def reportedType (declared : String) : String :=
  let type := withoutGeneration declared
  let isWhole := !((type.toList.drop 1).dropLast.any fun c => (closing? c).isSome)
  let plain := if isWhole then withoutQuotes type else type
  (standardTypes.find? (sameName plain)).getD (withoutQuotes type)

end TodoLedger.Sql
