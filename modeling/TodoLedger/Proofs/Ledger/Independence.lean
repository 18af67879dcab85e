import TodoLedger.Proofs.Ledger.Purging

/-!
# Independent changes

* `Op.IsChange`: the op changes the state of to-dos that are there, and neither gives nor deletes any.
  A change is refused for the ids and the owners of rows alone, or it rewrites the rows that it
  affects and counts again (`apply_change`).
* `Op.concerns` tells which rows a change may affect, whatever their state. It looks at nothing that
  changes (`Op.concerns_rewritten`), so what one change does makes no difference to which others are
  refused (`Op.check_settled`).
* `Independent`: both changes are bound to users, who differ, or both are for targets, which differ.
  Then no row concerns both (`Independent.not_concerns`).
* **Independent changes commute**: in either order they leave the same database, and each has the
  same answer (`independent_changes_commute`).
-/

namespace TodoLedger.Ledger

open Service (State Call)
open Snapshot (recountAll)

variable {now : Int64} {db : Database} {a b op : Op} {row : TodoRow}

/-! ### Changes -/

namespace Op

/-- The op changes the state of to-dos that are there. -/
inductive IsChange : Op → Prop
  | resolveForTarget (target : TargetRef) (user : Option UserId) (action : Option Action) :
    IsChange (.resolveForTarget target user action)
  | resolveCollection (ids : List TodoId) (user : UserId) (resolution : Resolution) :
    IsChange (.resolveCollection ids user resolution)
  | restoreCollection (ids : List TodoId) (user : UserId) : IsChange (.restoreCollection ids user)
  | resolveAllForUser (user : UserId) (resolution : Resolution) :
    IsChange (.resolveAllForUser user resolution)

/-- True of the rows that a change affects if they are in the state that it ends. -/
def concerns : Op → TodoRow → Bool
  | .resolveForTarget target user action, row =>
    row.points target && user.all (row.belongsTo ·) && action.all (row.action = .integer ·.code)
  | .resolveCollection ids _ _, row | .restoreCollection ids _, row => isNamed ids row.id
  | .resolveAllForUser user _, row => row.belongsTo user
  | .upsert _, _ | .purgeTarget _, _ => false

/-- What becomes of a row in a change. -/
def rewritten (now : Int64) (op : Op) (row : TodoRow) : TodoRow := (op.revise now row).getD row

/-- The effect of a change on the to-dos with these ids. -/
def effectOn (ids : List TodoId) : Op → Effect
  | .restoreCollection .. => .restored ids
  | _ => .resolved ids

/-- A change affects none but rows that it concerns. -/
theorem concerns_of_affects (hop : op.IsChange) (h : op.affects row = true) :
    op.concerns row = true := by
  cases hop <;> exact (Bool.and_eq_true_iff.1 h).2

/-- What a change concerns does not change. -/
theorem concerns_eq_of_origin_eq {row' : TodoRow} (h : row'.origin = row.origin) :
    op.concerns row' = op.concerns row := by
  have haction : row'.action = row.action := (congrArg TodoRow.action h :)
  cases op with
  | resolveForTarget =>
    simp only [concerns, TodoRow.points_eq_of_origin_eq h, TodoRow.belongsTo_eq_of_origin_eq h,
      haction]
  | resolveCollection | restoreCollection =>
    rw [concerns, concerns, TodoRow.id_eq_of_origin_eq h]
  | resolveAllForUser => rw [concerns, concerns, TodoRow.belongsTo_eq_of_origin_eq h]
  | upsert | purgeTarget => rfl

/-- A change keeps every row. -/
theorem revise_eq_some (hop : op.IsChange) (row : TodoRow) :
    op.revise now row = some (op.rewritten now row) := by
  have hsome : ∃ row', op.revise now row = some row' := by
    rw [revise]
    split
    · cases hop <;> exact ⟨_, rfl⟩
    · exact ⟨row, rfl⟩
  obtain ⟨row', hrow'⟩ := hsome
  rw [rewritten, hrow']
  rfl

/-- A change keeps what a row keeps for ever. -/
theorem origin_rewritten (hop : op.IsChange) (row : TodoRow) :
    (op.rewritten now row).origin = row.origin := revise_origin (revise_eq_some hop row)

/-- A change leaves a row that does not concern it. -/
theorem rewritten_of_not_concerns (hop : op.IsChange) (h : op.concerns row = false) :
    op.rewritten now row = row := by
  have haffects : op.affects row = false :=
    Bool.eq_false_iff.2 fun haffects => by
      rw [concerns_of_affects hop haffects] at h
      cases h
  rw [rewritten, revise_of_not_affects haffects]
  rfl

/-- A change is a revision. -/
theorem IsChange.isRevision (hop : op.IsChange) : op.isRevision = true := by
  cases hop <;> rfl

end Op

/-! ### What a change does -/

/-- A change rewrites rows where they are. -/
theorem revised_change (hop : op.IsChange) (db : Database) :
    revised now op db = { db with todos := db.todos.map (op.rewritten now) } := by
  rw [revised, funext (Op.revise_eq_some hop), List.filterMap_eq_map']

/-- A change that is refused does nothing. -/
theorem step_of_check_error {error : Error} (hop : op.IsChange) (h : op.check db = .error error) :
    step now op db = .error error := by
  cases hop with
  | resolveForTarget | resolveAllForUser => cases h
  | resolveCollection | restoreCollection =>
    rw [Op.check] at h
    rw [step, h]
    rfl

/-- A change that is not refused is permitted. -/
theorem permitted_of_check (hop : op.IsChange) (h : op.check db = .ok ()) : op.Permitted db := by
  cases hop with
  | resolveForTarget | resolveAllForUser => trivial
  | resolveCollection | restoreCollection => exact permitted_of_checkOwnership h

/-- **A change is refused, or it rewrites the rows that it affects, reports them, and counts
again.** -/
theorem apply_change (now : Int64) (hwf : WellFormed db) (hcounted : Counted db)
    (hop : op.IsChange) : apply now [op] db = (op.check db).map fun _ =>
      (recountAll (revised now op db), [op.effectOn (idsOf (db.todos.filter op.affects))]) := by
  cases hcheck : op.check db with
  | error error =>
    rw [apply, run, step_of_check_error hop hcheck]
    rfl
  | ok =>
    obtain ⟨change, hstep⟩ := exists_step_of_permitted now hwf hop.isRevision
      (permitted_of_check hop hcheck)
    have hstepped := stepped_of_step hstep
    have hran : Ran now db [op] _ := .cons hstepped .nil
    have hafter := hran.refresh_eq_recountAll hwf hcounted
    have heffect : change.effect = op.effectOn (idsOf (db.todos.filter op.affects)) := by
      cases hstepped with
      | resolved => cases hop <;> first | rfl | contradiction
      | restored => rfl
      | blocked | inserted | purged => cases hop
    rw [apply, run, hstep]
    change Except.ok (refresh (change.touched ++ []) change.database, [change.effect]) =
      Except.ok (recountAll (revised now op db), _)
    rw [hafter, heffect, hstepped.eq_revised hop.isRevision]

/-- The database after a change. -/
def Op.settled (now : Int64) (op : Op) (db : Database) : Database :=
  match op.check db with
  | .ok _ => recountAll (revised now op db)
  | .error _ => db

/-- What a change answers. -/
def Op.answer (op : Op) (db : Database) : Except Error (List Effect) :=
  (op.check db).map fun _ => [op.effectOn (idsOf (db.todos.filter op.affects))]

section Settled

variable (now) (hwf : WellFormed db) (hcounted : Counted db) (hop : op.IsChange)

include hwf hcounted hop

/-- The answer of a change by itself. -/
theorem map_snd_apply : (apply now [op] db).map (·.2) = op.answer db := by
  rw [apply_change now hwf hcounted hop, Op.answer]
  cases op.check db <;> rfl

/-- The database after a change by itself. -/
theorem database_perform_apply {s : State} (hs : s.database = db) :
    (Call.perform s (.apply now [op])).database = op.settled now db := by
  rw [Call.perform, hs, apply_change now hwf hcounted hop, Op.settled]
  cases op.check db with
  | error => exact hs
  | ok => rfl

end Settled

/-! ### What one change makes of another -/

/-- The database after a change keeps all ids and owners of rows. -/
theorem refusal?_settled (hop : op.IsChange) (user : UserId) (id : TodoId) :
    refusal? (recountAll (revised now op db)) user id = refusal? db user id := by
  have hid : (fun row : TodoRow => isNamed [id] row.id) ∘ op.rewritten now =
      fun row => isNamed [id] row.id := by
    funext row
    rw [Function.comp_apply, TodoRow.id_eq_of_origin_eq (Op.origin_rewritten hop row)]
  have hfind : (recountAll (revised now op db)).todos.find? (fun row => isNamed [id] row.id) =
      (db.todos.find? fun row => isNamed [id] row.id).map (op.rewritten now) := by
    rw [revised_change hop]
    change (db.todos.map (op.rewritten now)).find? _ = _
    rw [List.find?_map, hid]
  rw [refusal?, refusal?, hfind]
  cases db.todos.find? fun row => isNamed [id] row.id with
  | none => rfl
  | some row =>
    simp only [Option.map_some, TodoRow.belongsTo_eq_of_origin_eq (Op.origin_rewritten hop row)]

/-- **What one change does makes no difference to whether another is refused, and why.** -/
theorem Op.check_settled (hwf : WellFormed db) (hwf' : WellFormed (b.settled now db))
    (hb : b.IsChange) (a : Op) : a.check (b.settled now db) = a.check db := by
  have hchecked (user : UserId) (ids : List TodoId) :
      checkOwnership (b.settled now db) user ids = checkOwnership db user ids := by
    rw [checkOwnership_eq hwf', checkOwnership_eq hwf, settled]
    cases b.check db with
    | error => rfl
    | ok => simp only [funext (refusal?_settled hb user)]
  cases a with
  | resolveCollection | restoreCollection => exact hchecked _ _
  | upsert | resolveForTarget | resolveAllForUser | purgeTarget => rfl

/-! ### Independent changes -/

/-- The user to whom a change is bound. -/
def Op.user? : Op → Option UserId
  | .resolveForTarget _ user _ => user
  | .resolveCollection _ user _ | .restoreCollection _ user | .resolveAllForUser user _ => some user
  | .upsert _ | .purgeTarget _ => none

/-- Both changes are bound to users, who differ, or both are for targets, which differ. -/
inductive Independent : Op → Op → Prop
  | users {a b : Op} {user other : UserId} (ha : a.user? = some user) (hb : b.user? = some other)
    (hne : user ≠ other) : Independent a b
  | targets {target other : TargetRef} {user user' : Option UserId} {action action' : Option Action}
    (hne : target ≠ other) :
    Independent (.resolveForTarget target user action) (.resolveForTarget other user' action')

/-- Only changes are bound to users. -/
theorem isChange_of_user? {user : UserId} (h : op.user? = some user) : op.IsChange := by
  cases op with
  | upsert | purgeTarget => cases h
  | resolveForTarget => exact .resolveForTarget ..
  | resolveCollection => exact .resolveCollection ..
  | restoreCollection => exact .restoreCollection ..
  | resolveAllForUser => exact .resolveAllForUser ..

/-- What a change that is bound to a user concerns is theirs, if it is not refused. -/
theorem belongsTo_of_concerns (hwf : WellFormed db) {user : UserId} (huser : op.user? = some user)
    (hcheck : op.check db = .ok ()) (hrow : row ∈ db.todos) (h : op.concerns row = true) :
    row.belongsTo user = true := by
  have hpermitted := permitted_of_check (isChange_of_user? huser) hcheck
  cases op with
  | upsert | purgeTarget => cases huser
  | resolveForTarget =>
    cases huser
    rw [Op.concerns, Bool.and_eq_true, Bool.and_eq_true] at h
    exact h.1.2
  | resolveCollection | restoreCollection =>
    cases huser
    exact belongsTo_of_permitted hwf.todos hpermitted hrow h
  | resolveAllForUser =>
    cases huser
    exact h

namespace Independent

/-- Independence does not depend on the order. -/
theorem symm (h : Independent a b) : Independent b a := by
  cases h with
  | users ha hb hne => exact .users hb ha hne.symm
  | targets hne => exact .targets hne.symm

/-- What is independent is a change. -/
theorem isChange (h : Independent a b) : a.IsChange := by
  cases h with
  | users ha => exact isChange_of_user? ha
  | targets => exact .resolveForTarget ..

/-- **No row concerns both of two independent changes**, if neither is refused. -/
theorem not_concerns (h : Independent a b) (hwf : WellFormed db) (ha : a.check db = .ok ())
    (hb : b.check db = .ok ()) (hrow : row ∈ db.todos) (hconcerns : a.concerns row = true) :
    b.concerns row = false := by
  rw [Bool.eq_false_iff]
  intro hconcerns'
  cases h with
  | users huser huser' hne =>
    have hbelongs := belongsTo_of_concerns hwf huser ha hrow hconcerns
    have hbelongs' := belongsTo_of_concerns hwf huser' hb hrow hconcerns'
    exact hne (TodoRow.eq_of_belongsTo hbelongs hbelongs')
  | targets hne =>
    rw [Op.concerns, Bool.and_eq_true, Bool.and_eq_true] at hconcerns hconcerns'
    exact hne (TodoRow.eq_of_points hconcerns.1.1 hconcerns'.1.1)

end Independent

/-! ### Changes that concern no row both -/

section Apart

variable (ha : a.IsChange) (hb : b.IsChange)

include ha hb

/-- What one change makes of a row does not concern another if the row did not. -/
theorem rewritten_rewritten (h : b.concerns row = false) :
    b.rewritten now (a.rewritten now row) = a.rewritten now row :=
  Op.rewritten_of_not_concerns hb (by rw [Op.concerns_eq_of_origin_eq (Op.origin_rewritten ha row), h])

/-- Two changes of a row can be made in either order, if it does not concern both. -/
theorem rewritten_comm (h : a.concerns row = true → b.concerns row = false) :
    b.rewritten now (a.rewritten now row) = a.rewritten now (b.rewritten now row) := by
  cases hconcerns : a.concerns row with
  | true =>
    rw [rewritten_rewritten ha hb (h hconcerns), Op.rewritten_of_not_concerns hb (h hconcerns)]
  | false =>
    rw [Op.rewritten_of_not_concerns ha hconcerns, rewritten_rewritten hb ha hconcerns]

/-- Another change makes no difference to whether a change affects a row, if it does not concern
both. -/
theorem affects_rewritten (h : a.concerns row = true → b.concerns row = false) :
    a.affects (b.rewritten now row) = a.affects row := by
  cases hconcerns : a.concerns row with
  | true => rw [Op.rewritten_of_not_concerns hb (h hconcerns)]
  | false =>
    have hnot {row' : TodoRow} (horigin : row'.origin = row.origin) : a.affects row' = false := by
      refine Bool.eq_false_iff.2 fun haffects => ?_
      have hconcerned := Op.concerns_of_affects ha haffects
      rw [Op.concerns_eq_of_origin_eq horigin, hconcerns] at hconcerned
      cases hconcerned
    rw [hnot (Op.origin_rewritten hb row), hnot rfl]

end Apart

/-- What was counted before a change is counted again after it. -/
theorem recountAll_revised_recountAll (hop : op.IsChange) (db : Database) :
    recountAll (revised now op (recountAll db)) = recountAll (revised now op db) := by
  rw [revised_change hop, revised_change hop]
  simp only [recountAll, List.map_map]
  rfl

namespace Independent

variable (h : Independent a b) (hwf : WellFormed db) (hwf' : WellFormed (b.settled now db))

include h hwf hwf'

/-- **A change has the same answer after an independent one as before it.** -/
theorem answer_settled : a.answer (b.settled now db) = a.answer db := by
  rw [Op.answer, Op.answer, Op.check_settled hwf hwf' h.symm.isChange]
  cases ha : a.check db with
  | error => rfl
  | ok =>
    rw [Op.settled]
    cases hb : b.check db with
    | error => rfl
    | ok =>
      have haffects : ∀ row ∈ db.todos, (a.affects ∘ b.rewritten now) row = a.affects row :=
        fun row hrow => affects_rewritten h.isChange h.symm.isChange
          fun hconcerns => h.not_concerns hwf ha hb hrow hconcerns
      have hid : (fun row : TodoRow => idOfRow row.id) ∘ b.rewritten now =
          fun row => idOfRow row.id := by
        funext row
        rw [Function.comp_apply,
          TodoRow.id_eq_of_origin_eq (Op.origin_rewritten h.symm.isChange row)]
      have hids : idsOf ((recountAll (revised now b db)).todos.filter a.affects) =
          idsOf (db.todos.filter a.affects) := by
        rw [revised_change h.symm.isChange]
        change idsOf ((db.todos.map (b.rewritten now)).filter a.affects) = _
        rw [idsOf, idsOf, List.filter_map, List.map_map, hid, List.filter_congr haffects]
      simp only [hids]

/-- **Two independent changes leave the same in either order.** -/
theorem settled_comm (hwf'' : WellFormed (a.settled now db)) :
    b.settled now (a.settled now db) = a.settled now (b.settled now db) := by
  have ha := h.isChange
  have hb := h.symm.isChange
  have hcheck := Op.check_settled hwf hwf'' ha b
  have hcheck' := Op.check_settled hwf hwf' hb a
  rw [Op.settled, hcheck, Op.settled.eq_1 now a (b.settled now db), hcheck']
  cases hcheckA : a.check db with
  | error =>
    simp only [Op.settled, hcheckA]
  | ok =>
    cases hcheckB : b.check db with
    | error => simp only [Op.settled, hcheckA, hcheckB]
    | ok =>
      have hrows : (db.todos.map (a.rewritten now)).map (b.rewritten now) =
          (db.todos.map (b.rewritten now)).map (a.rewritten now) := by
        rw [List.map_map, List.map_map]
        exact List.map_congr_left fun row hrow => rewritten_comm ha hb
          fun hconcerns => h.not_concerns hwf hcheckA hcheckB hrow hconcerns
      simp only [Op.settled, hcheckA, hcheckB, recountAll_revised_recountAll ha,
        recountAll_revised_recountAll hb]
      simp only [revised_change ha, revised_change hb, hrows]

end Independent

/-! ### After all calls -/

/-- **Independent changes commute.** After all calls, two changes that are bound to different users,
or that resolve on different targets, leave the same database in either order, and each succeeds
with the same answer or fails with the same error, whichever comes first. -/
theorem independent_changes_commute (calls : List Call) (now : Int64) {a b : Op}
    (h : Independent a b) :
    let after (ops : List Op) := (State.after (calls ++ ops.map fun op => .apply now [op])).database
    let answer (op : Op) (db : Database) := (apply now [op] db).map (·.2)
    after [a, b] = after [b, a] ∧ answer a (after [b]) = answer a (after []) ∧
      answer b (after [a]) = answer b (after []) := by
  intro after answer
  have hnone : after [] = (State.after calls).database := by simp [after]
  have hone {op : Op} (hop : op.IsChange) : after [op] = op.settled now (after []) := by
    rw [hnone]
    change (State.after (calls ++ [.apply now [op]])).database = _
    rw [State.after_concat]
    exact database_perform_apply now (Service.wellFormed_after calls) (counted_after calls) hop rfl
  have htwo {first second : Op} (hop : second.IsChange) :
      after [first, second] = second.settled now (after [first]) := by
    have hsplit : calls ++ [.apply now [first], .apply now [second]] =
        (calls ++ [.apply now [first]]) ++ [.apply now [second]] := by simp
    change (State.after (calls ++ [.apply now [first], .apply now [second]])).database = _
    rw [hsplit, State.after_concat]
    exact database_perform_apply now (Service.wellFormed_after _) (counted_after _) hop rfl
  have hanswer {op : Op} (hop : op.IsChange) (ops : List Op) :
      answer op (after ops) = op.answer (after ops) :=
    map_snd_apply now (Service.wellFormed_after _) (counted_after _) hop
  have ha := h.isChange
  have hb := h.symm.isChange
  have hwf : WellFormed (after []) := Service.wellFormed_after _
  have hwfA : WellFormed (a.settled now (after [])) := hone ha ▸ Service.wellFormed_after _
  have hwfB : WellFormed (b.settled now (after [])) := hone hb ▸ Service.wellFormed_after _
  refine ⟨?_, ?_, ?_⟩
  · rw [htwo hb, htwo ha, hone ha, hone hb]
    exact h.settled_comm hwf hwfB hwfA
  · rw [hanswer ha, hanswer ha, hone hb]
    exact h.answer_settled hwf hwfB
  · rw [hanswer hb, hanswer hb, hone ha]
    exact h.symm.answer_settled hwf hwfA

/-- Ada resolves her to-do by its id, and all of bob's on the same issue are resolved. -/
theorem independent_changes_commute_two_users :
    let issue : Issue := { id := 5, projectId := 1, authorId := 2, assignees := [1, 2] }
    let calls : List Call := [.createUser "ada" false, .createUser "bob" false,
      .createProject "engine" .everyone false,
      .handle ⟨Unit, .builtIn {}, ()⟩ { assignAuthorOnCreate := true } 7 (.newIssue issue 2)]
    let a : Op := .resolveCollection [1] 1 .markDone
    let b : Op := .resolveForTarget (.row .issue 5) (some 2) none
    let after (ops : List Op) := (State.after (calls ++ ops.map fun op => .apply 8 [op])).database
    let answer (op : Op) (db : Database) := (apply 8 [op] db).map (·.2)
    Independent a b ∧ after [a, b] = after [b, a] ∧ answer a (after [b]) = .ok [.resolved [1]] ∧
      answer b (after [a]) = .ok [.resolved [2]] := by
  intro issue calls a b after answer
  have hindependent : Independent a b := .users rfl rfl (by decide : (1 : UserId) ≠ 2)
  obtain ⟨hsame, ha, hb⟩ := independent_changes_commute calls 8 hindependent
  have hfirst : answer a (after []) = .ok [.resolved [1]] := by decide +kernel
  have hsecond : answer b (after []) = .ok [.resolved [2]] := by decide +kernel
  exact ⟨hindependent, hsame, ha.trans hfirst, hb.trans hsecond⟩

end TodoLedger.Ledger
