import TodoLedger.Json.Record

/-!
# Users

Users are known by an id and by a handle, which no two of them share. A user carries the numbers of
their pending and done to-dos, which the ledger keeps up to date.
-/

namespace TodoLedger

/-- The id of a user. -/
abbrev UserId := UInt64

/-- A user with the cached numbers of their to-dos. -/
structure User where
  id : UserId
  handle : String
  admin : Bool
  pendingCount : UInt64
  doneCount : UInt64
deriving DecidableEq, Repr

namespace User

/-- The form in which a text refers to the user. -/
def reference (user : User) : String := "@" ++ user.handle

/-- The fields of a user. -/
def fieldNames : List String :=
  ["id", "handle", "admin", "todos_pending_count", "todos_done_count"]

/-- A user as an object. -/
def toJson (user : User) : Json :=
  .object [("id", .ofId user.id), ("handle", .string user.handle), ("admin", .bool user.admin),
    ("todos_pending_count", .ofId user.pendingCount), ("todos_done_count", .ofId user.doneCount)]

/-- Reads a user. All fields must be there. -/
def ofJson? (value : Json) : Option User := do
  let r ← Json.Record.ofJson? fieldNames value
  return {
    id := ← r.required "id" Json.id?
    handle := ← r.required "handle" Json.text?
    admin := ← r.required "admin" Json.bool?
    pendingCount := ← r.required "todos_pending_count" Json.id?
    doneCount := ← r.required "todos_done_count" Json.id? }

end User

end TodoLedger
