import TodoLedger.Database.Accounts
import TodoLedger.Ledger.Batch
import TodoLedger.Mention.Directory
import TodoLedger.Metrics
import TodoLedger.Service.Plan

/-!
# The service

The service keeps the ledger up to date with what happens to targets. It works with three
collaborators, in any monad: two with which recipients are found, and the store, which may refuse a
batch. `handle` finds what an event asks for, then hands all of it to the ledger in one batch, and
counts.
-/

namespace TodoLedger.Service

open Ledger (Op Effect)

/-- The collaborators of a service. All of them see the database as it is when they are asked. -/
structure Collaborators (n : Type → Type) where
  /-- To whom a text refers. -/
  scan : Database → String → ExceptT Fault n (Mentions UserId)
  /-- Whether a user sees a target. -/
  canSee : Database → UserId → Target → ExceptT Fault n Bool
  /-- Fails when the store takes no batch. -/
  beginBatch : Database → List Op → ExceptT Fault n Unit

namespace Collaborators

variable {n : Type → Type} [Monad n]

/-- The collaborators with which recipients are found. -/
def witnesses (c : Collaborators n) (db : Database) : Witnesses n := ⟨c.scan db, c.canSee db⟩

/-- Texts refer to the users of the database, and its memberships decide who sees what. -/
def builtIn (settings : Settings) : Collaborators n where
  scan db := Mention.scanUsers settings.ignoreCodeBlocks fun handles =>
    ExceptT.mk (pure (db.userIds? handles))
  canSee db user target := ExceptT.mk (pure (db.canSee user target))
  beginBatch _ _ := pure ()

end Collaborators

/-- What a service keeps. -/
structure State where
  database : Database
  metrics : Metrics := .zero

/-- The state at the start. -/
def State.initial : State := { database := .empty }

/-- Counts an event. -/
def State.countEvent (s : State) (kind : EventKind) (succeeded : Bool) : State :=
  { s with metrics := s.metrics.countEvent kind succeeded }

/-- What the effects of a batch amount to. -/
def outcomeOf (effects : List Effect) : Outcome where
  created := effects.filterMap fun | .created id => id | _ => none
  resolved := effects.flatMap fun | .resolved ids => ids | _ => []
  restored := effects.flatMap fun | .restored ids => ids | _ => []

/-- The users who had pending to-dos on a target that was purged. -/
def purgedUsers (effects : List Effect) : List UserId :=
  effects.flatMap fun | .purged users => users | _ => []

variable {n : Type → Type} [Monad n] (c : Collaborators n) (settings : Settings) (now : Int64)

/-- Hands ops to the ledger as one batch, unless there are none, and counts their effects. -/
def commit (ops : List Op) (s : State) : n (Except Error (List Effect) × State) := do
  if ops.isEmpty then return (.ok [], s)
  else
    match ← (c.beginBatch s.database ops).run with
    | .error fault => return (.error (.store fault), s)
    | .ok () =>
      match Ledger.apply now ops s.database with
      | .error error => return (.error error, s)
      | .ok (database, effects) => return (.ok effects, ⟨database, s.metrics.countEffects ops effects⟩)

/-- Finds what an event asks for, and does it. -/
def perform (event : Event) (s : State) : n (Except Error (List Effect) × State) := do
  match ← (plan (c.witnesses s.database) settings event).run with
  | .error error => return (.error error, s)
  | .ok ops => commit c now ops s

/-- Handles an event. -/
def handle (event : Event) (s : State) : n (Except Error Outcome × State) := do
  let (result, s) ← perform c settings now event s
  return (result.map outcomeOf, s.countEvent event.kind result.isOk)

/-- Handles events one after the other, each at its own time, whether or not those before
failed. -/
def replay : List (Int64 × Event) → State → n (List (Except Error Outcome) × State)
  | [], s => return ([], s)
  | (now, event) :: rest, s => do
    let (result, s) ← handle c settings now event s
    let (results, s) ← replay rest s
    return (result :: results, s)

/-- Removes a target with `removal`, and then, if that went well, its to-dos. Gives the users who
had pending ones. -/
def destroy (target : Target) (removal : ExceptT Fault n Unit) (s : State) :
    n (Except Error (List UserId) × State) := do
  match ← removal.run with
  | .error fault =>
    let error := .store (fault.within (.destroy target.reference))
    return (.error error, s.countEvent .targetDestroyed false)
  | .ok () =>
    let (result, s) ← perform c settings now (.targetDestroyed target) s
    return (result.map purgedUsers, s.countEvent .targetDestroyed result.isOk)

/-- Resolves one to-do of a user. True if it was pending. -/
def resolveTodo (id : TodoId) (user : UserId) (resolution : Resolution) (s : State) :
    n (Except Error Bool × State) := do
  let (result, s) ← handle c settings now (.resolveTodos [id] user resolution) s
  return (result.map (!·.resolved.isEmpty), s)

/-- Makes one to-do of a user pending again. True if it was done. -/
def restoreTodo (id : TodoId) (user : UserId) (s : State) : n (Except Error Bool × State) := do
  let (result, s) ← handle c settings now (.restoreTodos [id] user) s
  return (result.map (!·.restored.isEmpty), s)

end TodoLedger.Service
