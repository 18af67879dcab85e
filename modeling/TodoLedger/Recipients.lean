import TodoLedger.Ascending
import TodoLedger.Error
import TodoLedger.Mention.Scan
import TodoLedger.TaskList

/-!
# Who receives a to-do

Recipients are found with two collaborators, `Witnesses`: one tells to whom a text refers, the other
who sees a target. Both may fail, and both may have effects of their own, in any monad.

* `ofMentions`: the users to whom a text refers. After an edit with a known earlier text only those
  whom the earlier text did not refer to, and nobody when only check boxes changed.
* `ofAssignment`: the assignees who were not assigned before.
* `ofParticipants`: the users who work on a merge request.

Of all these, those who do not see the target are left out. Each list is in ascending order of
users.
-/

namespace TodoLedger

/-- A user who shall receive a to-do, and why. -/
structure Recipient where
  userId : UserId
  action : Action
deriving DecidableEq, Repr

/-- A text that is new, or that was edited. -/
structure TextChange where
  current : String
  /-- The text before the edit, where it is known. -/
  previous : Option String := none
deriving DecidableEq, Repr

/-- The collaborators with which recipients are found. -/
structure Witnesses (n : Type → Type) where
  /-- To whom a text refers. -/
  scan : String → ExceptT Fault n (Mentions UserId)
  /-- Whether a user sees a target. -/
  canSee : UserId → Target → ExceptT Fault n Bool

namespace Witnesses

variable {n : Type → Type} [Monad n] (w : Witnesses n)

/-- To whom a text refers. -/
def references (text : String) : ExceptT Error n (Mentions UserId) :=
  (w.scan text).adapt .references

/-- Whether a user sees a target. -/
def sees (target : Target) (user : UserId) : ExceptT Error n Bool :=
  (w.canSee user target).adapt .visibility

/-- The users among `users` who see the target, in the given order. -/
def seers (target : Target) : List UserId → ExceptT Error n (List UserId)
  | [] => pure []
  | user :: rest => do
    let sees ← w.sees target user
    let others ← seers target rest
    return if sees then user :: others else others

end Witnesses

namespace Recipient

variable {n : Type → Type} [Monad n] (w : Witnesses n)

/-- Why a user to whom a text refers receives a to-do. -/
def mentionAction (mentions : Mentions UserId) (user : UserId) : Action :=
  if mentions.addressed.contains user then .directlyAddressed else .mentioned

/-- The users to whom the current text refers, without those to skip, who see the target. -/
def ofText (current : String) (skip : List UserId) (target : Target) :
    ExceptT Error n (List Recipient) := do
  let mentions ← w.references current
  let users ← w.seers target (mentions.all.filter (!skip.contains ·))
  return users.map fun user => ⟨user, mentionAction mentions user⟩

/-- The recipients on account of the mentions in a text. -/
def ofMentions (change : TextChange) (skip : List UserId) (target : Target) :
    ExceptT Error n (List Recipient) :=
  match change.previous with
  | none => ofText w change.current skip target
  | some previous =>
    if TaskList.onlyStatesChanged previous change.current then pure []
    else do
      let before ← w.references previous
      ofText w change.current (skip ++ before.all) target

/-- The users among `users` who see the target, each once, with one action. -/
def ofUsers (action : Action) (users : List UserId) (target : Target) :
    ExceptT Error n (List Recipient) := do
  let users ← w.seers target (ascending users)
  return users.map fun user => ⟨user, action⟩

/-- The recipients on account of an assignment. -/
def ofAssignment (assignees previous : List UserId) (target : Target) :
    ExceptT Error n (List Recipient) :=
  ofUsers w .assigned (assignees.filter (!previous.contains ·)) target

/-- The recipients on account of what happened to a merge request. -/
def ofParticipants (action : Action) (target : Target) : ExceptT Error n (List Recipient) :=
  ofUsers w action target.mergeParticipants target

end Recipient

end TodoLedger
