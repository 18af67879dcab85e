/-!
# Settings as a tree of tables

A file of settings is a tree of named values. A table in it can be written in four ways, and how it
was written decides what may be added to it later: a table in braces is finished, one under a header
is opened once, one that a longer header implies can still get its own header, and one that a dotted
key makes can be extended by dotted keys. `assign` and `openTable` add to a tree, or refuse.
-/

namespace TodoLedger

/-- How a table was written. -/
inductive TomlOrigin where
  /-- In braces. -/
  | braces
  /-- Under a header of its own. -/
  | header
  /-- As a part of a longer header. -/
  | implied
  /-- As a part of a dotted key. -/
  | dotted
deriving DecidableEq, Repr

/-- A value in a file of settings. Of numbers and of dates and times, nothing is kept. -/
inductive Toml where
  | bool (value : Bool)
  | string (value : String)
  | number
  | moment
  | list (items : List Toml)
  | table (origin : TomlOrigin) (fields : List (String × Toml))
  /-- Tables under one repeated header. -/
  | tables (items : List (List (String × Toml)))
deriving Inhabited

namespace Toml

/-- The named values of a table. -/
abbrev Fields := List (String × Toml)

/-- Gives a name a value, in place of the one that it has. -/
def setField (name : String) (value : Toml) : Fields → Fields
  | [] => [(name, value)]
  | (other, old) :: rest =>
    if other = name then (name, value) :: rest else (other, old) :: setField name value rest

/-- True when a dotted key may lead through the table, or end in it. -/
def mayExtend (origin : TomlOrigin) (ends : Bool) : Bool :=
  origin = .dotted || (origin = .implied && !ends)

/-- Puts a value under a dotted key: the names on the way, then the last one. The last name must be
free. -/
def assign (name : String) (value : Toml) : List String → Fields → Option Fields
  | [], fields =>
    if (fields.lookup name).isSome then none else some (fields ++ [(name, value)])
  | step :: rest, fields =>
    match fields.lookup step with
    | none =>
      (assign name value rest []).map fun inner => setField step (.table .dotted inner) fields
    | some (.table origin inner) =>
      if mayExtend origin rest.isEmpty then
        (assign name value rest inner).map fun inner => setField step (.table origin inner) fields
      else none
    | some (.tables items) =>
      match items.getLast? with
      | some last =>
        if rest.isEmpty then none
        else
          (assign name value rest last).map fun last =>
            setField step (.tables (items.dropLast ++ [last])) fields
      | none => none
    | some _ => none

/-- Changes what is under the names of a header. The way leads through tables that are not finished
and through the last of repeated tables; tables that are missing on the way are implied. -/
def changeAt (change : Option Toml → Option Toml) : List String → Fields → Option Fields
  | [], _ => none
  | [name], fields => (change (fields.lookup name)).map fun value => setField name value fields
  | step :: rest, fields =>
    match fields.lookup step with
    | none => (changeAt change rest []).map fun inner => setField step (.table .implied inner) fields
    | some (.table origin inner) =>
      if origin = .braces then none
      else (changeAt change rest inner).map fun inner => setField step (.table origin inner) fields
    | some (.tables items) =>
      match items.getLast? with
      | some last =>
        (changeAt change rest last).map fun last =>
          setField step (.tables (items.dropLast ++ [last])) fields
      | none => none
    | some _ => none

/-- Opens a table and fills it. A table is opened once. -/
def openTable (fill : Fields → Option Fields) : Option Toml → Option Toml
  | none => (fill []).map (.table .header)
  | some (.table .implied fields) => (fill fields).map (.table .header)
  | some _ => none

/-- Adds one more of repeated tables and fills it. -/
def addTable (fill : Fields → Option Fields) : Option Toml → Option Toml
  | none => (fill []).map fun table => .tables [table]
  | some (.tables items) => (fill []).map fun table => .tables (items ++ [table])
  | some _ => none

end Toml

end TodoLedger
