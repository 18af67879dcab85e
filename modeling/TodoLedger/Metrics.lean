import TodoLedger.Event.Basic
import TodoLedger.Ledger.Op

/-!
# Metrics

The service counts what it did to the ledger and which events it handled. `Metrics.lines` is the
text in which a monitoring system reads the counters: families in the order of their names, with the
samples that were counted at least once in the order of their labels. How long events took is not
part of it.
-/

namespace TodoLedger

/-- Counters of the service. -/
structure Metrics where
  /-- New to-dos, by action. -/
  created : Action → Nat
  /-- To-dos that became done, by how. -/
  resolved : Resolution → Nat
  /-- To-dos that became pending again. -/
  restored : Nat
  /-- Events that were handled, by the name under which they are recorded. -/
  handled : String → Nat
  /-- Events that failed, by the same names. -/
  failed : String → Nat

namespace Metrics

/-- Nothing has been counted. -/
def zero : Metrics := ⟨fun _ => 0, fun _ => 0, 0, fun _ => 0, fun _ => 0⟩

/-- Adds to one of several counters. -/
def bump {α : Type} [DecidableEq α] (counters : α → Nat) (key : α) (amount : Nat) : α → Nat :=
  fun k => if k = key then counters k + amount else counters k

/-- The way in which an op resolves to-dos, if it does. -/
def resolutionOf? : Ledger.Op → Option Resolution
  | .resolveForTarget .. => some .systemDone
  | .resolveCollection _ _ resolution | .resolveAllForUser _ resolution => some resolution
  | .upsert _ | .restoreCollection .. | .purgeTarget _ => none

/-- Counts what an op did. -/
def countEffect (m : Metrics) (op : Ledger.Op) (effect : Ledger.Effect) : Metrics :=
  match op, effect with
  | .upsert todo, .created (some _) => { m with created := bump m.created todo.action 1 }
  | op, .resolved ids =>
    match resolutionOf? op with
    | some resolution => { m with resolved := bump m.resolved resolution ids.length }
    | none => m
  | _, .restored ids => { m with restored := m.restored + ids.length }
  | _, _ => m

/-- Counts what the ops of a batch did. -/
def countEffects (m : Metrics) (ops : List Ledger.Op) (effects : List Ledger.Effect) : Metrics :=
  (ops.zip effects).foldl (fun m (op, effect) => m.countEffect op effect) m

/-- The name under which an event of the kind is recorded when it is handled. Requests by id are
made by users directly, and are not recorded. -/
def recordedAs? : EventKind → Option String
  | .newIssue => some "new_issue"
  | .updateIssue => some "update_issue"
  | .closeIssue => some "close_issue"
  | .reopenIssue => some "reopen_issue"
  | .newMergeRequest => some "new_merge_request"
  | .updateMergeRequest => some "update_merge_request"
  | .closeMergeRequest => some "close_merge_request"
  | .reopenMergeRequest => some "reopen_merge_request"
  | .mergeMergeRequest => some "merge_merge_request"
  | .reassigned => some "reassigned_assignable"
  | .buildFailed => some "merge_request_build_failed"
  | .push => some "merge_request_push"
  | .unmergeable => some "merge_request_became_unmergeable"
  | .awardEmoji => some "new_award_emoji"
  | .newNote => some "new_note"
  | .updateNote => some "update_note"
  | .markTodo => some "mark_todo"
  | .resolveTodosForTarget => some "resolve_todos_for_target"
  | .targetDestroyed => some "destroy_target"
  | .resolveTodos | .restoreTodos => none
  | .markAllDone => some "mark_all_done"

/-- All names under which events are recorded. -/
def eventNames : List String := EventKind.all.filterMap recordedAs?

/-- Counts an event. -/
def countEvent (m : Metrics) (kind : EventKind) (succeeded : Bool) : Metrics :=
  match recordedAs? kind with
  | none => m
  | some name =>
    if succeeded then { m with handled := bump m.handled name 1 }
    else { m with failed := bump m.failed name 1 }

/-! ### Text -/

/-- The labels of a counter and its value. -/
structure Sample where
  labels : List (String × String)
  value : Nat

/-- Counters of one name. -/
structure Family where
  name : String
  help : String
  type : String
  samples : List Sample
  /-- What stands after the name in a line of a sample. -/
  part : String := ""

/-- A label with its value. -/
def labelText (label : String × String) : String := label.1 ++ "=\"" ++ label.2 ++ "\""

/-- The order of samples: by the values of their labels. -/
def Sample.isBefore (a b : Sample) : Bool := !(b.labels.map (·.2)).lex (a.labels.map (·.2))

/-- The lines of a family; none if nothing was counted. -/
def Family.lines (family : Family) : List String :=
  let samples := (family.samples.filter (·.value ≠ 0)).mergeSort Sample.isBefore
  let name := "todo_engine_" ++ family.name
  if samples.isEmpty then []
  else
    ("# HELP " ++ name ++ " " ++ family.help) :: ("# TYPE " ++ name ++ " " ++ family.type) ::
      samples.map fun s =>
        name ++ family.part ++ "\x7b" ++ ",".intercalate (s.labels.map labelText) ++ "\x7d " ++
          toString s.value

/-- All families by name. -/
def families (m : Metrics) : List Family :=
  [{ name := "event_duration_seconds"
     help := "Time spent classifying and persisting one event"
     type := "histogram"
     part := "_count"
     samples := eventNames.map fun name => ⟨[("event", name)], m.handled name + m.failed name⟩ },
   { name := "events_total"
     help := "Events handled, by kind and result"
     type := "counter"
     samples := eventNames.flatMap fun name =>
       [⟨[("event", name), ("status", "ok")], m.handled name⟩,
        ⟨[("event", name), ("status", "error")], m.failed name⟩] },
   { name := "todos_created_total"
     help := "To-dos created, by action"
     type := "counter"
     samples := Action.all.map fun action => ⟨[("action", action.name)], m.created action⟩ },
   { name := "todos_resolved_total"
     help := "To-dos marked done, by mechanism"
     type := "counter"
     samples := Resolution.all.map fun resolution =>
       ⟨[("resolved_by", resolution.name)], m.resolved resolution⟩ },
   { name := "todos_restored_total"
     help := "Done to-dos restored to pending"
     type := "counter"
     samples := [⟨[("source", "api")], m.restored⟩] }]

/-- The counters as text, line by line. -/
def lines (m : Metrics) : List String := m.families.flatMap Family.lines

end Metrics

end TodoLedger
