import TodoLedger.Target.Basic
import TodoLedger.Time.Timestamp

/-!
# To-dos

A to-do asks one user to look at one target. Its `Action` tells why it exists; it is pending until
it is resolved, and then keeps how that happened (`Resolution`). A user is asked only once for some
actions: `Action.conflicts` lists those whose pending to-dos stand in the way of a new one on the
same target.
-/

namespace TodoLedger

/-- The id of a to-do. -/
abbrev TodoId := UInt64

/-! ### Why a to-do exists -/

/-- Why a to-do exists. -/
inductive Action where
  | assigned
  | mentioned
  | buildFailed
  | marked
  | unmergeable
  | directlyAddressed
deriving DecidableEq, Repr

namespace Action

/-- All actions. -/
def all : List Action :=
  [.assigned, .mentioned, .buildFailed, .marked, .unmergeable, .directlyAddressed]

/-- The name under which an action is written. -/
def name : Action → String
  | .assigned => "assigned"
  | .mentioned => "mentioned"
  | .buildFailed => "build_failed"
  | .marked => "marked"
  | .unmergeable => "unmergeable"
  | .directlyAddressed => "directly_addressed"

/-- The number that stands for the action in a row. -/
def code : Action → Int64
  | .assigned => 1
  | .mentioned => 2
  | .buildFailed => 3
  | .marked => 4
  | .unmergeable => 6
  | .directlyAddressed => 7

/-- The action of that name. -/
def ofName? (name : String) : Option Action := all.find? (·.name = name)

/-- The action of that code. -/
def ofCode? (code : Int64) : Option Action := all.find? (·.code = code)

/-- The actions whose pending to-dos stand in the way of a new to-do of this action, for the same
user on the same target. -/
def conflicts : Action → List Action
  | .mentioned | .directlyAddressed => [.mentioned, .directlyAddressed]
  | .assigned => [.assigned]
  | .buildFailed | .marked | .unmergeable => []

/-- True of the actions that make a new to-do every time. -/
def alwaysInserts (action : Action) : Bool := action.conflicts.isEmpty

/-- An action is found by its name. -/
@[simp] theorem ofName?_name (action : Action) : ofName? action.name = some action := by
  cases action <;> rfl

/-- An action is found by its code. -/
@[simp] theorem ofCode?_code (action : Action) : ofCode? action.code = some action := by
  cases action <;> rfl

/-- Only the code of an action finds it. -/
theorem code_of_ofCode? {code : Int64} {action : Action} (h : ofCode? code = some action) :
    code = action.code := by
  rw [ofCode?] at h
  have hcode := List.find?_some h
  exact (of_decide_eq_true hcode).symm

/-- No two actions share a code. -/
theorem code_injective {a b : Action} (h : a.code = b.code) : a = b := by
  have := ofCode?_code a
  rw [h, ofCode?_code b] at this
  exact (Option.some.inj this).symm

end Action

/-! ### Whether it is done -/

/-- Whether a to-do is done. -/
inductive TodoState where
  | pending
  | done
deriving DecidableEq, Repr

namespace TodoState

/-- All states of to-dos. -/
def all : List TodoState := [.pending, .done]

/-- The name under which a state is written. -/
def name : TodoState → String
  | .pending => "pending"
  | .done => "done"

/-- The state of that name. -/
def ofName? (name : String) : Option TodoState := all.find? (·.name = name)

/-- A state is found by its name. -/
@[simp] theorem ofName?_name (state : TodoState) : ofName? state.name = some state := by
  cases state <;> rfl

/-- Only the name of a state finds it. -/
theorem name_of_ofName? {name : String} {state : TodoState} (h : ofName? name = some state) :
    name = state.name := by
  rw [ofName?] at h
  have hname := List.find?_some h
  exact (of_decide_eq_true hname).symm

/-- States are told apart by their names. -/
theorem name_injective {a b : TodoState} (h : a.name = b.name) : a = b := by
  have := ofName?_name a
  rw [h, ofName?_name b] at this
  exact (Option.some.inj this).symm

end TodoState

/-- How a to-do became done. -/
inductive Resolution where
  | systemDone
  | apiAllDone
  | apiDone
  | markAllDone
  | markDone
deriving DecidableEq, Repr

namespace Resolution

/-- All resolutions. -/
def all : List Resolution := [.systemDone, .apiAllDone, .apiDone, .markAllDone, .markDone]

/-- The name under which a resolution is written. -/
def name : Resolution → String
  | .systemDone => "system_done"
  | .apiAllDone => "api_all_done"
  | .apiDone => "api_done"
  | .markAllDone => "mark_all_done"
  | .markDone => "mark_done"

/-- The resolution of that name. -/
def ofName? (name : String) : Option Resolution := all.find? (·.name = name)

/-- A resolution is found by its name. -/
@[simp] theorem ofName?_name (resolution : Resolution) :
    ofName? resolution.name = some resolution := by
  cases resolution <;> rfl

/-- Only the name of a resolution finds it. -/
theorem name_of_ofName? {name : String} {resolution : Resolution}
    (h : ofName? name = some resolution) : name = resolution.name := by
  rw [ofName?] at h
  have hname := List.find?_some h
  exact (of_decide_eq_true hname).symm

end Resolution

/-! ### To-dos -/

/-- A to-do of the ledger. -/
structure Todo where
  id : TodoId
  /-- Whom it asks. -/
  userId : UserId
  /-- Who caused it. -/
  authorId : UserId
  projectId : ProjectId
  target : TargetRef
  noteId : Option UInt64
  action : Action
  state : TodoState
  /-- How it became done. -/
  resolution : Option Resolution
  createdAt : Time.Timestamp
  updatedAt : Time.Timestamp
deriving DecidableEq, Repr

/-- True of a to-do that is not done. -/
def Todo.isPending (todo : Todo) : Bool := todo.state = .pending

/-- A to-do that is wanted in the ledger. -/
structure NewTodo where
  userId : UserId
  authorId : UserId
  projectId : ProjectId
  target : TargetRef
  noteId : Option UInt64
  action : Action
deriving DecidableEq, Repr

/-- The numbers of pending and of done to-dos of a user. -/
structure Counts where
  pending : UInt64
  done : UInt64
deriving DecidableEq, Repr

/-- Which of a user's to-dos to list; a field without a value lets all pass. -/
structure TodoFilter where
  state : Option TodoState := none
  action : Option Action := none
  projectId : Option ProjectId := none
  kind : Option TargetKind := none
deriving DecidableEq, Repr

/-- What an event did to the ledger. -/
structure Outcome where
  /-- The new to-dos. -/
  created : List TodoId := []
  /-- The to-dos that became done. -/
  resolved : List TodoId := []
  /-- The to-dos that became pending again. -/
  restored : List TodoId := []
deriving DecidableEq, Repr

/-- True when the ledger did not change. -/
def Outcome.isEmpty (outcome : Outcome) : Bool :=
  outcome.created.isEmpty && outcome.resolved.isEmpty && outcome.restored.isEmpty

end TodoLedger
