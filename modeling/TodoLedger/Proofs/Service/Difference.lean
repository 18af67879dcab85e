import TodoLedger.Proofs.Ledger.Lookup
import TodoLedger.Proofs.Service.History
import TodoLedger.Proofs.Service.Request

/-!
# What an event reports is what it changed

* `Outcome.IsDifference`: an outcome lists the new to-dos, those that became done and those that
  became pending again, and all others are as before.
* The outcome of a revision is the difference that it made (`isDifference_revision`), and with each
  new to-do the difference is one to-do more (`Outcome.IsDifference.insert`).
* **The outcome of an event is the difference that the event made**; the destruction of a target
  reports nothing and deletes the to-dos on the target (`outcome_isDifference`).
-/

namespace TodoLedger

open Ledger (Op Effect Change Run Stepped Ran revised idsOf)

variable {now : Int64} {before after db : Database} {op : Op} {outcome : Outcome}

/-! ### Differences -/

/-- The ids are those of the rows that were of one kind before and are of another afterwards. -/
def Turned (ids : List TodoId) (before after : Database) (p q : TodoRow → Bool) : Prop :=
  ∀ id, id ∈ ids ↔ ∃ old new, before.todoRow? id = some old ∧ after.todoRow? id = some new ∧
    p old = true ∧ q new = true

/-- All to-dos that the outcome lists. -/
def Outcome.listed (outcome : Outcome) : List TodoId :=
  outcome.created ++ (outcome.resolved ++ outcome.restored)

/-- The outcome tells how the to-dos before and after differ. -/
structure Outcome.IsDifference (outcome : Outcome) (before after : Database) : Prop where
  /-- New are the to-dos that are there only afterwards. -/
  created : ∀ id, id ∈ outcome.created ↔
    before.todoRow? id = none ∧ ∃ row, after.todoRow? id = some row
  pending : ∀ id ∈ outcome.created, ∀ row, after.todoRow? id = some row → row.isPending = true
  /-- New to-dos are listed in ascending order. Only when the greatest id of all is taken, free ids
  are given in no order. -/
  ascending : (∀ row ∈ after.todos, row.id < Int64.maxValue) → outcome.created.Pairwise (· < ·)
  resolved : Turned outcome.resolved before after (·.isPending) (·.isDone)
  restored : Turned outcome.restored before after (·.isDone) (·.isPending)
  /-- No to-do is listed twice. -/
  nodup : outcome.listed.Nodup
  /-- What is not listed stayed as it was. -/
  kept : ∀ id, id ∉ outcome.listed → after.todoRow? id = before.todoRow? id

/-! ### Revisions -/

section Revision

variable {p q : TodoRow → Bool} {f : TodoRow → TodoRow}

/-- Where all rows stay, none turned. -/
theorem turned_refl (hpq : ∀ row, p row = true → q row = false) (db : Database) :
    Turned [] db db p q := by
  refine fun id => iff_of_false List.not_mem_nil ?_
  rintro ⟨old, new, hold, hnew, hp, hq⟩
  rw [hold] at hnew
  cases hnew
  rw [hpq old hp] at hq
  cases hq

/-- The rows that an op affects turned, if it makes what is `p` into what is `q`. -/
theorem turned_revised (hkeyed : Keyed (db.todos.map (·.id)))
    (hrevise : ∀ row, op.revise now row = some (if op.affects row then f row else row))
    (hpq : ∀ row, p row = true → q row = false)
    (hp : ∀ row, op.affects row = true → p row = true) (hq : ∀ row, q (f row) = true) :
    Turned (idsOf (db.todos.filter op.affects)) db (revised now op db) p q := by
  intro id
  rw [mem_idsOf_filter hkeyed, todoRow?_revised now op hkeyed]
  constructor
  · rintro ⟨row, hrow, haffects⟩
    refine ⟨row, f row, hrow, ?_, hp row haffects, hq row⟩
    rw [hrow, Option.bind_some, hrevise, if_pos haffects]
  · rintro ⟨old, new, hold, hnew, hpold, hqnew⟩
    refine ⟨old, hold, ?_⟩
    rw [hold, Option.bind_some, hrevise, Option.some.injEq] at hnew
    by_contra haffects
    rw [if_neg haffects] at hnew
    rw [← hnew, hpq old hpold] at hqnew
    cases hqnew

/-- No row turned, if an op affects no row that is `p`. -/
theorem turned_nil_revised (hkeyed : Keyed (db.todos.map (·.id)))
    (hrevise : ∀ row, op.revise now row = some (if op.affects row then f row else row))
    (hpq : ∀ row, p row = true → q row = false)
    (hp : ∀ row, op.affects row = true → p row = false) :
    Turned [] db (revised now op db) p q := by
  refine fun id => iff_of_false List.not_mem_nil ?_
  rintro ⟨old, new, hold, hnew, hpold, hqnew⟩
  rw [todoRow?_revised now op hkeyed, hold, Option.bind_some, hrevise, Option.some.injEq] at hnew
  have haffects : ¬op.affects old = true := fun haffects => by
    rw [hp old haffects] at hpold
    cases hpold
  rw [if_neg haffects] at hnew
  rw [← hnew, hpq old hpold] at hqnew
  cases hqnew

/-- The rows that an op affects are what it changes, if it deletes none. -/
theorem isDifference_revised (hkeyed : Keyed (db.todos.map (·.id)))
    (hrevise : ∀ row, op.revise now row = some (if op.affects row then f row else row))
    (hcreated : outcome.created = [])
    (hids : outcome.resolved ++ outcome.restored = idsOf (db.todos.filter op.affects))
    (hresolved : Turned outcome.resolved db (revised now op db) (·.isPending) (·.isDone))
    (hrestored : Turned outcome.restored db (revised now op db) (·.isDone) (·.isPending)) :
    outcome.IsDifference db (revised now op db) where
  created id := by
    rw [hcreated, todoRow?_revised now op hkeyed]
    refine iff_of_false List.not_mem_nil ?_
    rintro ⟨hnone, row, hrow⟩
    rw [hnone] at hrow
    cases hrow
  pending id h := by
    rw [hcreated] at h
    cases h
  ascending _ := by
    rw [hcreated]
    exact List.Pairwise.nil
  resolved := hresolved
  restored := hrestored
  nodup := by
    rw [Outcome.listed, hcreated, List.nil_append, hids]
    exact nodup_idsOf _
  kept id hnot := by
    rw [Outcome.listed, hcreated, List.nil_append, hids, mem_idsOf_filter hkeyed] at hnot
    rw [todoRow?_revised now op hkeyed]
    cases hrow : db.todoRow? id with
    | none => rfl
    | some row =>
      rw [Option.bind_some, hrevise, if_neg fun haffects => hnot ⟨row, hrow, haffects⟩]

end Revision

namespace Outcome.IsDifference

/-- Where nothing happens there is nothing to report. -/
theorem refl (db : Database) : Outcome.IsDifference {} db db where
  created id := by
    refine iff_of_false List.not_mem_nil ?_
    rintro ⟨hnone, row, hrow⟩
    rw [hnone] at hrow
    cases hrow
  pending _ h := absurd h List.not_mem_nil
  ascending _ := List.Pairwise.nil
  resolved := turned_refl (fun _ => isDone_eq_false_of_isPending) db
  restored := turned_refl (fun _ => isPending_eq_false_of_isDone) db
  nodup := List.nodup_nil
  kept _ _ := rfl

/-- Counting again changes no to-do. -/
theorem refresh (h : outcome.IsDifference before after) (users : List UserId) :
    outcome.IsDifference before (Ledger.refresh users after) :=
  ⟨h.created, h.pending, h.ascending, h.resolved, h.restored, h.nodup, h.kept⟩

/-- What is listed is there afterwards. -/
theorem not_listed (h : outcome.IsDifference before after) {id : TodoId}
    (hnone : after.todoRow? id = none) : id ∉ outcome.listed := by
  rw [Outcome.listed, List.mem_append, List.mem_append, h.created id, h.resolved id, h.restored id,
    hnone]
  rintro (⟨_, _, ⟨⟩⟩ | ⟨_, _, _, ⟨⟩, _⟩ | ⟨_, _, _, ⟨⟩, _⟩)

/-- No to-do was lost. -/
theorem none_before (h : outcome.IsDifference before after) {id : TodoId}
    (hnone : after.todoRow? id = none) : before.todoRow? id = none := by
  rw [← h.kept id (h.not_listed hnone), hnone]

end Outcome.IsDifference

/-! ### New to-dos -/

/-- What turned stays if nothing changes for the ids that there were before. -/
theorem Turned.congr {ids : List TodoId} {p q : TodoRow → Bool} (h : Turned ids before db p q)
    (hsame : ∀ id, before.todoRow? id ≠ none → after.todoRow? id = db.todoRow? id) :
    Turned ids before after p q := by
  intro id
  rw [h id]
  refine exists_congr fun old => exists_congr fun new => and_congr_right fun hold => ?_
  rw [hsame id (by simp [hold])]

/-- **With a new to-do the difference is one to-do more.** -/
theorem Outcome.IsDifference.insert (h : outcome.IsDifference before db)
    (hkeyed : Keyed (db.todos.map (·.id))) {new : TodoRow} (hpending : new.isPending = true)
    (hid : freeRowId? (db.todos.map (·.id)) = some new.id) :
    Outcome.IsDifference { outcome with created := outcome.created ++ [idOfRow new.id] } before
      { db with todos := db.todos ++ [new] } := by
  have hfree := not_mem_of_freeRowId? hid
  have hfound := todoRow?_append hfree
  have hnone : db.todoRow? (idOfRow new.id) = none := by
    rw [todoRow?_eq_none_iff, rowId_idOfRow]
    exact hfree
  have hsame (id : TodoId) (hthere : before.todoRow? id ≠ none) :=
    (hfound id).trans (if_neg fun heq : id = _ => hthere (heq ▸ h.none_before hnone))
  constructor
  · intro id
    rw [List.mem_append, List.mem_singleton, hfound id]
    split
    · next hnew =>
      subst hnew
      exact iff_of_true (.inr rfl) ⟨h.none_before hnone, new, rfl⟩
    · next hold => rw [← h.created id, or_iff_left hold]
  · intro id hmem row hrow
    rw [hfound id] at hrow
    split at hrow
    · cases hrow
      exact hpending
    · next hold =>
      rw [List.mem_append, List.mem_singleton, or_iff_left hold] at hmem
      exact h.pending id hmem row hrow
  · intro hbelow
    have hbefore : ∀ row ∈ db.todos, row.id < Int64.maxValue := fun row hrow =>
      hbelow row (List.mem_append_left _ hrow)
    refine List.pairwise_append.2 ⟨h.ascending hbefore, List.pairwise_singleton _ _, ?_⟩
    intro id hcreated last hlast
    rw [List.mem_singleton] at hlast
    subst hlast
    obtain ⟨_, row, hrow⟩ := (h.created id).1 hcreated
    rw [← idOfRow_rowId id, ← id_of_todoRow? hrow]
    have hmem := List.mem_map_of_mem (f := (·.id)) (mem_of_todoRow? hrow)
    refine idOfRow_lt (Int64.le_of_lt (hkeyed.positive _ hmem)) ?_
    exact lt_of_freeRowId? (List.forall_mem_map.2 hbefore) hid _ hmem
  · exact h.resolved.congr hsame
  · exact h.restored.congr hsame
  · rw [Outcome.listed, List.append_assoc, List.singleton_append, List.perm_middle.nodup_iff]
    exact List.nodup_cons.2 ⟨h.not_listed hnone, h.nodup⟩
  · intro id hnot
    rw [Outcome.listed, List.append_assoc, List.singleton_append, List.perm_middle.mem_iff,
      List.mem_cons, not_or] at hnot
    rw [hfound id, if_neg hnot.1]
    exact h.kept id hnot.2

namespace Service

variable {effects : List Effect}

/-- The difference that a batch made so far, after one more new to-do or none. -/
theorem isDifference_upsert {todo : NewTodo} {change : Change}
    (h : (outcomeOf effects).IsDifference before db) (hkeyed : Keyed (db.todos.map (·.id)))
    (hstep : Stepped now db (.upsert todo) change) :
    (outcomeOf (effects ++ [change.effect])).IsDifference before change.database := by
  have houtcome (id : Option TodoId) : outcomeOf (effects ++ [.created id]) =
      { outcomeOf effects with created := (outcomeOf effects).created ++ id.toList } := by
    cases id <;> simp [outcomeOf]
  cases hstep with
  | blocked =>
    rw [houtcome, Option.toList_none, List.append_nil]
    exact h
  | @inserted _ id _ hid =>
    have hfree : freeRowId? (db.todos.map (·.id)) = some (TodoRow.ofNew id now todo).id := hid
    rw [houtcome]
    exact h.insert hkeyed rfl hfree
  | resolved hop => cases hop

/-- The difference that a batch made so far, after new to-dos. -/
theorem isDifference_upserts {todos : List NewTodo} {done : Run}
    (h : (outcomeOf effects).IsDifference before db) (hdb : WellFormed db)
    (hran : Ran now db (todos.map .upsert) done) :
    (outcomeOf (effects ++ done.effects)).IsDifference before done.database := by
  induction todos generalizing effects db done with
  | nil =>
    cases hran
    rw [List.append_nil]
    exact h
  | cons todo rest ih =>
    cases hran with
    | cons hstep hrest =>
      rw [List.append_cons]
      exact (ih (isDifference_upsert h hdb.todos hstep) (hdb.step hstep) hrest :)

/-- The difference that a revision made, if it deletes nothing. -/
theorem isDifference_revision {change : Change} (hop : op.isRevision = true)
    (hpurge : ∀ target, op ≠ .purgeTarget target) (hkeyed : Keyed (db.todos.map (·.id)))
    (hstep : Stepped now db op change) :
    (outcomeOf [change.effect]).IsDifference db change.database := by
  cases hstep with
  | blocked | inserted => cases hop
  | resolved hop =>
    have hpending (row : TodoRow) (h : op.affects row = true) := Op.isPending_of_affects hop h
    have hrevise (row : TodoRow) : op.revise now row = _ :=
      Op.revise_of_rewrite (Op.rewrite_of_resolves hop) row
    refine isDifference_revised hkeyed hrevise rfl (by simp [outcomeOf]) ?_ ?_
    · have hturned := turned_revised hkeyed hrevise (fun _ => isDone_eq_false_of_isPending)
        hpending fun _ => rfl
      simpa [outcomeOf] using hturned
    · exact turned_nil_revised hkeyed hrevise (fun _ => isPending_eq_false_of_isDone)
        fun row h => isDone_eq_false_of_isPending (hpending row h)
  | @restored ids user =>
    have hdone (row : TodoRow) (h : (Op.restoreCollection ids user).affects row = true) :
        row.isDone = true := (Bool.and_eq_true_iff.1 h).1
    have hrevise (row : TodoRow) : (Op.restoreCollection ids user).revise now row = _ :=
      Op.revise_of_rewrite (Op.rewrite_restoreCollection ids user) row
    refine isDifference_revised hkeyed hrevise rfl (by simp [outcomeOf]) ?_ ?_
    · exact turned_nil_revised hkeyed hrevise (fun _ => isDone_eq_false_of_isPending)
        fun row h => isPending_eq_false_of_isDone (hdone row h)
    · have hturned := turned_revised hkeyed hrevise (fun _ => isPending_eq_false_of_isDone)
        hdone fun _ => rfl
      simpa [outcomeOf] using hturned
  | @purged target => exact absurd rfl (hpurge target)

/-- **The difference that the batch of an event made**, if the event destroys no target. -/
theorem isDifference_batch {event : Event} {todos : List NewTodo} {done : Run}
    (hevent : ∀ target, event ≠ .targetDestroyed target) (hdb : WellFormed db)
    (hran : Ran now db (event.batch todos) done) :
    (outcomeOf done.effects).IsDifference db done.database := by
  rcases ran_batch_cases hran with ⟨_, hran⟩ | ⟨op, change, last, hrevision, hstep, hlast, rfl⟩
  · have hnothing : (outcomeOf []).IsDifference db db := .refl db
    exact isDifference_upserts hnothing hdb hran
  · have hpurge : ∀ target, op ≠ .purgeTarget target := by
      rintro reference rfl
      obtain ⟨target, htarget, _⟩ := Event.eq_of_revision?_purges hrevision
      exact hevent target htarget
    have hrevised := isDifference_revision (Event.isRevision_of_revision? hrevision) hpurge
      hdb.todos hstep
    exact (isDifference_upserts hrevised (hdb.step hstep) hlast :)

/-- What the destruction of a target does: it deletes the to-dos on the target, and reports
nothing. -/
theorem eq_of_ran_destroyed {target : Target} {todos : List NewTodo} {done : Run}
    (htodos : ∀ todo ∈ todos, (Event.targetDestroyed target).MayGive todo)
    (hran : Ran now db ((Event.targetDestroyed target).batch todos) done) :
    outcomeOf done.effects = {} ∧
      done.database.todos = db.todos.filter (!·.points target.reference) := by
  cases Event.eq_nil_of_actions rfl htodos
  rcases ran_batch_cases hran with ⟨⟨⟩, _⟩ | ⟨_, _, _, ⟨⟩, hstep, hlast, rfl⟩
  cases hlast
  cases hstep with
  | resolved hop => cases hop
  | purged =>
    refine ⟨rfl, ?_⟩
    change db.todos.filterMap ((Op.purgeTarget target.reference).revise now) = _
    rw [funext (Op.revise_purgeTarget target.reference), List.filterMap_eq_filter]

/-! ### Events -/

/-- **The outcome of an event is the difference that it made to the to-dos**, after all calls. The
destruction of a target has no outcome, and deletes the to-dos on the target and no other. -/
theorem outcome_isDifference {σ : Type} (calls : List Call) (c : Collaborators (StateM σ))
    (settings : Settings) (now : Int64) (event : Event) (world : σ) (outcome : Outcome)
    (h : ((handle c settings now event (State.after calls)).run world).1.1 = .ok outcome) :
    let before := (State.after calls).database
    let after := ((handle c settings now event (State.after calls)).run world).1.2.database
    ((∀ target, event ≠ .targetDestroyed target) → outcome.IsDifference before after) ∧
      ∀ target, event = .targetDestroyed target →
        outcome = {} ∧ after.todos = before.todos.filter (!·.points target.reference) := by
  intro before after
  obtain ⟨todos, done, htodos, hran, hafter, rfl⟩ := exists_ran_of_handle h
  have hdatabase : after = Ledger.refresh done.touched done.database := hafter
  rw [hdatabase]
  constructor
  · intro hevent
    exact (isDifference_batch hevent (wellFormed_after calls) hran).refresh done.touched
  · rintro target rfl
    exact eq_of_ran_destroyed htodos hran

/-- Ada comments on her issue, and mentions bob and eve. -/
theorem outcome_isDifference_newNote :
    let c : Collaborators (StateM Unit) := .builtIn {}
    let issue : Issue := { id := 5, projectId := 1, authorId := 2, assignees := [1] }
    let calls : List Call := [.createUser "ada" false, .createUser "bob" false,
      .createUser "eve" false, .createProject "engine" .everyone false,
      .handle ⟨Unit, c, ()⟩ {} 7 (.newIssue issue 2)]
    let event : Event := .newNote ⟨1, 1, "see @bob and @eve", false, .issue issue⟩ 1
    let outcome : Outcome := ⟨[2, 3], [1], []⟩
    ((handle c {} 8 event (State.after calls)).run ()).1.1 = .ok outcome ∧
      outcome.IsDifference (State.after calls).database
        ((handle c {} 8 event (State.after calls)).run ()).1.2.database := by
  intro c issue calls event outcome
  have hok : ((handle c {} 8 event (State.after calls)).run ()).1.1 = .ok outcome := by
    decide +kernel
  obtain ⟨hdifference, _⟩ := outcome_isDifference calls c {} 8 event () outcome hok
  exact ⟨hok, hdifference (by simp [event])⟩

end Service

end TodoLedger
