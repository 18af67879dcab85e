import TodoLedger.Database.Row

/-!
# Changes of the ledger

An `Op` is one change of the table of to-dos, an `Effect` what it did. Each kind of op has its own
kind of effect.
-/

namespace TodoLedger.Ledger

/-- One change of the ledger. -/
inductive Op where
  /-- Puts in a pending to-do, unless one that stands in its way is pending. -/
  | upsert (todo : NewTodo)
  /-- Resolves the pending to-dos on a target, of all users or of one, for all actions or one. -/
  | resolveForTarget (target : TargetRef) (user : Option UserId) (action : Option Action)
  /-- Resolves the user's to-dos with these ids. An id without a row, or of another user's row,
  is refused. -/
  | resolveCollection (ids : List TodoId) (user : UserId) (resolution : Resolution)
  /-- Makes the user's to-dos with these ids pending again, with the same refusals. -/
  | restoreCollection (ids : List TodoId) (user : UserId)
  /-- Resolves all pending to-dos of a user. -/
  | resolveAllForUser (user : UserId) (resolution : Resolution)
  /-- Deletes all to-dos on a target. -/
  | purgeTarget (target : TargetRef)
deriving DecidableEq, Repr

/-- What an op did. -/
inductive Effect where
  /-- The id of the new to-do, if there is one. -/
  | created (id : Option TodoId)
  /-- The to-dos that were pending and are done now. -/
  | resolved (ids : List TodoId)
  /-- The to-dos that were done and are pending now. -/
  | restored (ids : List TodoId)
  /-- The users who had pending to-dos on the deleted target. -/
  | purged (users : List UserId)
deriving DecidableEq, Repr

end TodoLedger.Ledger
