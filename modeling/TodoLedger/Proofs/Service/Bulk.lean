import TodoLedger.Proofs.Ledger.Selection

/-!
# Requests for several to-dos

* `Bulk`: a user's request to resolve to-dos by their ids, or to make them pending again.
* `Bulk.changed`: the to-dos with the ids that the request concerns, the pending ones or the done
  ones. The others with the ids stay as they are.
* The ledger refuses the ids, or it changes just these to-dos (`Bulk.apply_cases`), and what it does
  depends on the set of ids only (`Bulk.conclude_ops_congr`).
* **A request for several to-dos fails if and only if the user does not own all of them**, then on
  account of the least of the others, **and otherwise it changes just the to-dos that it concerns**
  (`handle_bulk`).
-/

namespace TodoLedger.Service

open Ledger (Op Effect Stepped Ran refresh idsOf)

/-- What a user asks for with the ids of to-dos. -/
inductive Bulk where
  /-- To make the pending ones done. -/
  | resolve (resolution : Resolution)
  /-- To make the done ones pending. -/
  | restore

namespace Bulk

variable (b : Bulk) {now : Int64} {db : Database} {ids other : List TodoId} {user : UserId}

/-! ### What is asked for -/

/-- The event of the request. -/
def event (ids : List TodoId) (user : UserId) : Bulk → Event
  | .resolve resolution => .resolveTodos ids user resolution
  | .restore => .restoreTodos ids user

/-- The op of the request. -/
def op (ids : List TodoId) (user : UserId) : Bulk → Op
  | .resolve resolution => .resolveCollection ids user resolution
  | .restore => .restoreCollection ids user

/-- The ops of the request, which are none for no ids. -/
def ops (ids : List TodoId) (user : UserId) : List Op :=
  if ids.isEmpty then [] else [b.op ids user]

/-- True of the rows that the request concerns, if they are named. -/
def concerns : Bulk → TodoRow → Bool
  | .resolve _, row => row.isPending
  | .restore, row => row.isDone

/-- What becomes of a row that is concerned. -/
def rewrite (now : Int64) : Bulk → TodoRow → TodoRow
  | .resolve resolution, row => row.resolved now resolution
  | .restore, row => row.restored now

/-- The answer, if these to-dos changed. -/
def outcome (ids : List TodoId) : Bulk → Outcome
  | .resolve _ => { resolved := ids }
  | .restore => { restored := ids }

/-- The to-dos among the named ones that the request concerns, in ascending order. -/
def changed (db : Database) (ids : List TodoId) : List TodoId :=
  idsOf (db.todos.filter fun row => b.concerns row && isNamed ids row.id)

/-- The event asks for its one op, or for nothing if no ids are named. -/
theorem plan_event {n : Type → Type} [Monad n] (w : Witnesses n) (settings : Settings)
    (ids : List TodoId) (user : UserId) :
    plan w settings (b.event ids user) = pure (b.ops ids user) := by
  cases b <;> rfl

/-- The op affects the named rows that the request concerns. -/
theorem affects_op :
    (b.op ids user).affects = fun row => b.concerns row && isNamed ids row.id := by
  cases b <;> rfl

/-- The op rewrites a row as the request does, and deletes none. -/
theorem rewrite_op (row : TodoRow) :
    (b.op ids user).rewrite now row = some (b.rewrite now row) := by
  cases b <;> rfl

/-- The op puts in nothing. -/
theorem isRevision_op : (b.op ids user).isRevision = true := by
  cases b <;> rfl

/-- The effect of a step tells which to-dos changed. -/
theorem outcomeOf_step {change : Ledger.Change} (h : Stepped now db (b.op ids user) change) :
    outcomeOf [change.effect] = b.outcome (b.changed db ids) := by
  have hresolved (ids : List TodoId) : outcomeOf [.resolved ids] = { resolved := ids } := by
    simp [outcomeOf]
  have hrestored (ids : List TodoId) : outcomeOf [.restored ids] = { restored := ids } := by
    simp [outcomeOf]
  cases b with
  | resolve =>
    cases h with
    | resolved => exact hresolved _
  | restore =>
    cases h with
    | resolved hop => cases hop
    | restored => exact hrestored _

/-- The to-dos that change are the named ones that the request concerns. -/
theorem mem_changed (hkeyed : Keyed (db.todos.map (·.id))) {id : TodoId} :
    id ∈ b.changed db ids ↔
      id ∈ ids ∧ ∃ row, db.todoRow? id = some row ∧ b.concerns row = true := by
  rw [changed, mem_idsOf_filter hkeyed]
  constructor
  · rintro ⟨row, hrow, hconcerned⟩
    rw [Bool.and_eq_true, isNamed_iff_mem hkeyed hrow] at hconcerned
    exact ⟨hconcerned.2, row, hrow, hconcerned.1⟩
  · rintro ⟨hid, row, hrow, hconcerned⟩
    refine ⟨row, hrow, ?_⟩
    rw [Bool.and_eq_true, isNamed_iff_mem hkeyed hrow]
    exact ⟨hconcerned, hid⟩

/-- What a request that succeeds did: it changed just the named to-dos that it concerns, and lists
them in ascending order. -/
structure Succeeded (now : Int64) (before after : Database) (ids : List TodoId) (user : UserId)
    (outcome : Outcome) (changed : List TodoId) : Prop where
  outcome : outcome = b.outcome changed
  ascending : changed.Pairwise (· < ·)
  listed : ∀ id, id ∈ changed ↔
    id ∈ ids ∧ ∃ row, before.todoRow? id = some row ∧ b.concerns row = true
  database : after = refresh [user] (before.rewriting changed (b.rewrite now))

/-! ### What the ledger does -/

/-- A named row is the user's if all ids are those of to-dos of the user. -/
theorem belongsTo_of_affects (hwf : WellFormed db)
    (hcheck : Ledger.checkOwnership db user ids = .ok ()) {row : TodoRow} (hrow : row ∈ db.todos)
    (haffects : (b.op ids user).affects row = true) : row.belongsTo user = true := by
  rw [affects_op, Bool.and_eq_true] at haffects
  exact Ledger.belongsTo_of_permitted hwf.todos (Ledger.permitted_of_checkOwnership hcheck) hrow
    haffects.2

/-- **The ledger refuses the ids, or it rewrites the to-dos that the request concerns.** -/
theorem apply_cases (now : Int64) (hwf : WellFormed db) (hcounted : Counted db) (ids : List TodoId)
    (user : UserId) :
    (∃ error, db.Refuses user ids error ∧ Ledger.apply now (b.ops ids user) db = .error error) ∨
      ((∀ id ∈ ids, db.Owns user id) ∧ ∃ effects,
        Ledger.apply now (b.ops ids user) db =
          .ok (refresh [user] (db.rewriting (b.changed db ids) (b.rewrite now)), effects) ∧
        outcomeOf effects = b.outcome (b.changed db ids)) := by
  cases ids with
  | nil =>
    have hnone : b.changed db [] = [] := by
      simp [changed, isNamed, idsOf]
    refine .inr ⟨by simp, [], ?_, ?_⟩
    · rw [hnone, rewriting_nil, hcounted.refresh_eq]
      exact Ledger.apply_nil now db
    · rw [hnone]
      cases b <;> rfl
  | cons first rest =>
    rw [ops, List.isEmpty_cons, if_neg Bool.false_ne_true, Ledger.apply, Ledger.run]
    rcases checkOwnership_cases hwf user (first :: rest) with
      ⟨error, hrefuses, hcheck⟩ | ⟨howns, hcheck⟩
    · have hstep : Ledger.step now (b.op (first :: rest) user) db = .error error := by
        cases b <;> (rw [op, Ledger.step, hcheck]; rfl)
      rw [hstep]
      exact .inl ⟨error, hrefuses, rfl⟩
    · have hpermitted : (b.op (first :: rest) user).Permitted db := by
        cases b <;> exact Ledger.permitted_of_checkOwnership hcheck
      obtain ⟨change, hstep⟩ := Ledger.exists_step_of_permitted now hwf b.isRevision_op hpermitted
      have hstepped := Ledger.stepped_of_step hstep
      have hran : Ran now db [b.op (first :: rest) user] _ := .cons hstepped .nil
      have hafter := hran.refresh_owned hwf hcounted b.isRevision_op fun row hrow haffects =>
        b.belongsTo_of_affects hwf hcheck hrow haffects
      rw [revised_eq_rewriting hwf.todos b.rewrite_op, affects_op] at hafter
      refine .inr ⟨howns, [change.effect], ?_, b.outcomeOf_step hstepped⟩
      rw [hstep]
      exact congrArg (fun db => Except.ok (db, [change.effect])) hafter

/-- **What the ledger does depends on the set of ids only.** -/
theorem conclude_ops_congr (now : Int64) (h : ∀ id, id ∈ other ↔ id ∈ ids) (user : UserId)
    (s : State) :
    conclude now (.ok (b.ops other user)) s = conclude now (.ok (b.ops ids user)) s := by
  have hnamed : isNamed other = isNamed ids := by
    funext id
    rw [Bool.eq_iff_iff, isNamed_iff, isNamed_iff, h]
  have hascending : ascending other = ascending ids :=
    eq_of_mem_iff_of_pairwise (ascending_pairwise _) (ascending_pairwise _) fun id => by
      rw [mem_ascending, mem_ascending, h]
  have hempty : other.isEmpty = ids.isEmpty := by
    rw [Bool.eq_iff_iff, List.isEmpty_iff, List.isEmpty_iff, ← ascending_eq_nil_iff, hascending,
      ascending_eq_nil_iff]
  have hcheck : Ledger.checkOwnership s.database user other =
      Ledger.checkOwnership s.database user ids := by
    rw [Ledger.checkOwnership, Ledger.checkOwnership, hnamed, hascending]
  have hstep : Ledger.step now (b.op other user) s.database =
      Ledger.step now (b.op ids user) s.database := by
    cases b <;> simp only [op, Ledger.step, hcheck, hnamed]
  have hcount (m : Metrics) (effects : List Effect) :
      m.countEffects [b.op other user] effects = m.countEffects [b.op ids user] effects := by
    cases effects with
    | nil => rfl
    | cons effect rest => cases b <;> cases effect <;> rfl
  rw [ops, ops, hempty]
  split
  · rfl
  · rw [conclude, conclude, Ledger.apply, Ledger.apply, Ledger.run, Ledger.run, hstep]
    simp only [hcount]

/-- The request goes to the ledger at once, if the store takes it. -/
theorem run_handle {σ : Type} {c : Collaborators (StateM σ)} (htakes : TakesBatches c)
    (settings : Settings) (now : Int64) (ids : List TodoId) (user : UserId) (s : State)
    (world : σ) : ((handle c settings now (b.event ids user) s).run world).1 =
      report (b.event ids user) (conclude now (.ok (b.ops ids user)) s) :=
  run_handle_of_takesBatches c settings now htakes (b.plan_event _ settings ids user) world

end Bulk

/-- **A request for several to-dos fails if and only if one of them is not there or another
user's.** Then the least of these makes the error, and nothing changes. Otherwise the answer lists
the to-dos that the request concerns, and just these change. All of this depends on the set of ids
only. -/
theorem handle_bulk {σ : Type} (c : Collaborators (StateM σ)) (htakes : TakesBatches c)
    (settings : Settings) (now : Int64) (calls : List Call) (b : Bulk) (ids : List TodoId)
    (user : UserId) (world : σ) :
    let s := State.after calls
    let answer (ids : List TodoId) := ((handle c settings now (b.event ids user) s).run world).1
    ((∃ error, (answer ids).1 = .error error) ↔ ∃ id ∈ ids, ¬ s.database.Owns user id) ∧
    (∀ error, (answer ids).1 = .error error →
      s.database.Refuses user ids error ∧ (answer ids).2 = s) ∧
    (∀ outcome, (answer ids).1 = .ok outcome → ∃ changed,
      b.Succeeded now s.database (answer ids).2.database ids user outcome changed) ∧
    ∀ other, (∀ id, id ∈ other ↔ id ∈ ids) → answer other = answer ids := by
  intro s answer
  have hwf : WellFormed s.database := wellFormed_after calls
  have hanswer (ids : List TodoId) :
      answer ids = report (b.event ids user) (conclude now (.ok (b.ops ids user)) s) :=
    b.run_handle htakes settings now ids user s world
  have hsame : ∀ other, (∀ id, id ∈ other ↔ id ∈ ids) → answer other = answer ids := by
    intro other hother
    rw [hanswer, hanswer, b.conclude_ops_congr now hother]
    cases b <;> rfl
  rcases b.apply_cases now hwf (counted_after calls) ids user with
    ⟨error, hrefuses, happly⟩ | ⟨howns, effects, happly, houtcome⟩
  · have hfailed : answer ids = (.error error, s) := by
      rw [hanswer, conclude, happly]
      cases b <;> rfl
    refine ⟨iff_of_true ⟨error, congrArg Prod.fst hfailed⟩ hrefuses.exists_not_owns, ?_, ?_, hsame⟩
    · rw [hfailed]
      rintro _ ⟨⟩
      exact ⟨hrefuses, rfl⟩
    · rw [hfailed]
      rintro _ ⟨⟩
  · have hdone := hanswer ids
    rw [conclude_of_apply now happly, report] at hdone
    have hok : (answer ids).1 = .ok (b.outcome (b.changed s.database ids)) := by
      rw [hdone, ← houtcome]
      rfl
    refine ⟨iff_of_false ?_ ?_, ?_, ?_, hsame⟩
    · rintro ⟨error, herror⟩
      rw [hok] at herror
      cases herror
    · rintro ⟨id, hid, hforeign⟩
      exact hforeign (howns id hid)
    · intro error herror
      rw [hok] at herror
      cases herror
    · intro outcome houtcome
      rw [hok] at houtcome
      cases houtcome
      refine ⟨b.changed s.database ids, rfl, ascending_pairwise _, ?_, ?_⟩
      · exact fun id => b.mem_changed hwf.todos
      · rw [hdone]
        rfl

/-- To-do 2 is bob's and there is no to-do 9, so ada's request fails on account of to-do 2. -/
theorem handle_bulk_notOwned :
    let c : Collaborators (StateM Unit) := .builtIn {}
    let issue : Issue := { id := 5, projectId := 1, authorId := 2, assignees := [1, 2] }
    let calls : List Call := [.createUser "ada" false, .createUser "bob" false,
      .createProject "engine" .everyone false,
      .handle ⟨Unit, c, ()⟩ { assignAuthorOnCreate := true } 7 (.newIssue issue 2)]
    let b : Bulk := .resolve .markDone
    ((handle c {} 8 (b.event [9, 1, 2, 9] 1) (State.after calls)).run ()).1.1 =
        .error (.notOwned 2 1) ∧
      ((handle c {} 8 (b.event [9, 1, 2, 9] 1) (State.after calls)).run ()).1.2 =
        State.after calls ∧
      ((handle c {} 8 (b.event [1, 2, 9] 1) (State.after calls)).run ()).1 =
        ((handle c {} 8 (b.event [9, 1, 2, 9] 1) (State.after calls)).run ()).1 := by
  intro c issue calls b
  obtain ⟨-, hfails, -, hset⟩ :=
    handle_bulk c (takesBatches_builtIn {}) {} 8 calls b [9, 1, 2, 9] 1 ()
  have herror : ((handle c {} 8 (b.event [9, 1, 2, 9] 1) (State.after calls)).run ()).1.1 =
      .error (.notOwned 2 1) := by decide +kernel
  have hsame : ∀ id : TodoId, id ∈ [1, 2, 9] ↔ id ∈ [9, 1, 2, 9] := by
    have hfirst : ([1, 2, 9] : List TodoId) ⊆ [9, 1, 2, 9] := by decide
    have hsecond : ([9, 1, 2, 9] : List TodoId) ⊆ [1, 2, 9] := by decide
    exact fun id => ⟨fun hid => hfirst hid, fun hid => hsecond hid⟩
  exact ⟨herror, (hfails _ herror).2, hset [1, 2, 9] hsame⟩

end TodoLedger.Service
