import TodoLedger.Proofs.Counters

/-!
# A batch is its ops one by one

* `oneByOne` submits ops one after the other, each by itself, as long as they succeed.
* A step looks at the to-dos and at who exists, never at the cached numbers, so counting in between
  changes nothing for the ops that follow (`run_withUsers`).
* Counting after each op gives what counting once for all touched users gives: the rows of a user
  who is not touched again stay as they were counted (`refresh_append`).
* **So a batch gives what its ops give one by one, or fails with the error of the first that
  fails** (`apply_eq_oneByOne`).
-/

namespace TodoLedger.Ledger

variable {now : Int64} {db : Database} {op : Op} {ops : List Op}

/-! ### Other users -/

/-- A step never looks at more of the users than their ids. -/
theorem step_withUsers {users : List UserRow} (h : users.map (·.id) = db.users.map (·.id)) :
    step now op { db with users } = (step now op db).map fun change =>
      { change with database := { change.database with users } } := by
  have hresolve (resolution : Resolution) (selected : TodoRow → Bool) :
      resolveWhere now resolution selected { db with users } =
        (resolveWhere now resolution selected db).map fun change =>
          { change with database := { change.database with users } } := by
    simp only [resolveWhere]
    cases ownersOf (db.todos.filter fun row => row.isPending && selected row) <;> rfl
  cases op with
  | upsert todo =>
    have hadmits : admits { db with users } todo = admits db todo := by
      rw [Bool.eq_iff_iff, admits_iff, admits_iff, h]
    simp only [step, upsert, hadmits]
    split
    · rfl
    · split
      · rfl
      · split <;> rfl
  | resolveForTarget | resolveAllForUser => exact hresolve _ _
  | resolveCollection ids user =>
    simp only [step, hresolve]
    change (checkOwnership db user ids >>= _) = _
    cases checkOwnership db user ids <;> rfl
  | restoreCollection ids user =>
    simp only [step, restoreWhere]
    change (checkOwnership db user ids >>= _) = _
    cases checkOwnership db user ids with
    | error => rfl
    | ok =>
      simp only [bind, Except.bind]
      cases ownersOf (db.todos.filter fun row => row.isDone && isNamed ids row.id) <;> rfl
  | purgeTarget target =>
    simp only [step, purge]
    cases ownersOf (db.todos.filter (·.points target)) with
    | error => rfl
    | ok =>
      simp only [bind, Except.bind]
      cases pendingOwners (db.todos.filter (·.points target)) <;> rfl

/-- Ops that run never look at more of the users than their ids. -/
theorem run_withUsers {users : List UserRow} (h : users.map (·.id) = db.users.map (·.id)) :
    run now ops { db with users } = (run now ops db).map fun done =>
      { done with database := { done.database with users } } := by
  induction ops generalizing db with
  | nil => rfl
  | cons op rest ih =>
    rw [run, run, step_withUsers h]
    cases hstep : step now op db with
    | error => rfl
    | ok change =>
      have hids : users.map (·.id) = change.database.users.map (·.id) := by
        rw [(stepped_of_step hstep).database_eq, h]
      change (run now rest { change.database with users } >>= _) =
        Except.map _ (run now rest _ >>= _)
      rw [ih hids]
      cases run now rest change.database <;> rfl

/-! ### Counting in between -/

/-- **Counting for some users and later for others gives what counting once for all of them
gives**, if the rows of the first that are not among the others stay the same in between. -/
theorem refresh_append {between after : Database} {first later : List UserId}
    (husers : after.users = between.users)
    (hrows : ∀ user, user ∉ later →
      after.todos.filter (·.belongsTo user) = between.todos.filter (·.belongsTo user)) :
    refresh (first ++ later) after =
      refresh later { after with users := (refresh first between).users } := by
  have hrow (row : UserRow) :
      (if isNamed (first ++ later) row.id then recount after row else row) =
        if isNamed later row.id then
          recount after (if isNamed first row.id then recount between row else row)
        else if isNamed first row.id then recount between row else row := by
    by_cases hlater : isNamed later row.id = true
    · have hnamed : isNamed (first ++ later) row.id = true := by
        rw [isNamed_iff] at hlater ⊢
        exact ⟨hlater.1, List.mem_append_right _ hlater.2⟩
      rw [if_pos hnamed, if_pos hlater]
      split <;> rfl
    · rw [if_neg hlater]
      by_cases hfirst : isNamed first row.id = true
      · have hnamed : isNamed (first ++ later) row.id = true := by
          rw [isNamed_iff] at hfirst ⊢
          exact ⟨hfirst.1, List.mem_append_left _ hfirst.2⟩
        rw [if_pos hnamed, if_pos hfirst]
        exact recount_congr (hrows _ fun hmem =>
          hlater (isNamed_iff.2 ⟨(isNamed_iff.1 hfirst).1, hmem⟩))
      · have hnamed : ¬isNamed (first ++ later) row.id = true := by
          rw [isNamed_iff] at hfirst hlater ⊢
          rw [List.mem_append]
          tauto
        rw [if_neg hnamed, if_neg hfirst]
  have hids (row : UserRow) : (if isNamed first row.id then recount between row else row).id =
      row.id := by
    split <;> rfl
  have husers : (refresh (first ++ later) after).users =
      (refresh later { after with users := (refresh first between).users }).users := by
    simp only [refresh, husers, List.map_map]
    refine List.map_congr_left fun row _ => ?_
    rw [hrow, Function.comp_apply, hids]
    rfl
  exact congrArg (fun users => { after with users }) husers

/-! ### One by one -/

/-- Submits ops one after the other, each by itself, as long as they succeed. -/
def oneByOne (now : Int64) : List Op → Database → Except Error (Database × List Effect)
  | [], db => .ok (db, [])
  | op :: rest, db => do
    let (db, effect) ← submit now op db
    let (db, effects) ← oneByOne now rest db
    return (db, effect :: effects)

/-- A set of ids without members could as well be handed to the tables. -/
theorem submit_eq_applyOne (now : Int64) (op : Op) (db : Database) :
    submit now op db = applyOne now op db := by
  have hidle (op : Op) (hop : op.isRevision = true) (hcheck : op.check db = .ok ())
      (h : ∀ row ∈ db.todos, op.affects row = false) : applyOne now op db = .ok (db, op.idle) := by
    rw [applyOne, step_eq_idle hop hcheck h]
    change Except.ok (refresh [] db, op.idle) = _
    rw [refresh_nil]
  have hcheck (user : UserId) : checkOwnership db user [] = .ok () := by
    simp [checkOwnership, isNamed, ownersOf_nil]
  unfold submit
  split
  · next user resolution =>
    have hnone : ∀ row ∈ db.todos,
        (Op.resolveCollection [] user resolution).affects row = false := by
      simp [Op.affects, isNamed]
    exact (hidle (.resolveCollection [] user resolution) rfl (hcheck user) hnone).symm
  · next user =>
    have hnone : ∀ row ∈ db.todos, (Op.restoreCollection [] user).affects row = false := by
      simp [Op.affects, isNamed]
    exact (hidle (.restoreCollection [] user) rfl (hcheck user) hnone).symm
  · rfl

/-- A batch of one op is that op by itself. -/
theorem apply_singleton (now : Int64) (op : Op) (db : Database) :
    apply now [op] db = (submit now op db).map fun (db, effect) => (db, [effect]) := by
  rw [submit_eq_applyOne, apply, applyOne, run]
  cases step now op db with
  | error => rfl
  | ok change =>
    change Except.ok (refresh (change.touched ++ []) change.database, [change.effect]) = _
    rw [List.append_nil]
    rfl

/-- **A batch submits its first op, and then the others as a batch.** -/
theorem apply_cons (now : Int64) (op : Op) (rest : List Op) (db : Database) :
    apply now (op :: rest) db = (do
      let (db, effect) ← submit now op db
      let (db, effects) ← apply now rest db
      return (db, effect :: effects)) := by
  rw [submit_eq_applyOne, applyOne, apply, run]
  cases hstep : step now op db with
  | error => rfl
  | ok change =>
    have hcounted : run now rest (refresh change.touched change.database) =
        (run now rest change.database).map fun done => { done with
          database := { done.database with
            users := (refresh change.touched change.database).users } } :=
      run_withUsers (refresh_map_id _ _)
    change _ = (apply now rest (refresh change.touched change.database) >>= _)
    rw [apply, hcounted]
    cases hrest : run now rest change.database with
    | error => simp [bind, Except.bind, Except.map, hrest]
    | ok after =>
      have hran := ran_of_run hrest
      have hrefresh : refresh (change.touched ++ after.touched) after.database = _ :=
        refresh_append (by rw [hran.database_eq]) fun user huser =>
          hran.filter_eq_of_not_touched huser
      change (run now rest change.database >>= _) >>= _ = _
      rw [hrest]
      change Except.ok (refresh _ _, _) = _
      rw [hrefresh]
      rfl

/-- A batch gives what its ops give one by one. -/
theorem apply_eq (now : Int64) (ops : List Op) (db : Database) :
    apply now ops db = oneByOne now ops db := by
  induction ops generalizing db with
  | nil => exact apply_nil now db
  | cons op rest ih =>
    rw [apply_cons, oneByOne]
    refine bind_congr fun submitted => ?_
    obtain ⟨db, effect⟩ := submitted
    dsimp only
    rw [ih]

/-- Ops that are submitted go on where the ops before them ended. -/
theorem oneByOne_append (now : Int64) (earlier later : List Op) (db : Database) :
    oneByOne now (earlier ++ later) db = (do
      let (db, effects) ← oneByOne now earlier db
      let (db, others) ← oneByOne now later db
      return (db, effects ++ others)) := by
  induction earlier generalizing db with
  | nil =>
    change _ = (oneByOne now later db >>= _)
    simp
  | cons op rest ih =>
    rw [List.cons_append, oneByOne, oneByOne, bind_assoc]
    refine bind_congr fun submitted => ?_
    obtain ⟨db, effect⟩ := submitted
    dsimp only
    rw [ih]
    simp only [bind_assoc, pure_bind, List.cons_append]

/-- **Submitted ops fail with the error of the first that fails**, which is submitted after all ops
before it succeeded. -/
theorem oneByOne_eq_error_iff {error : Error} :
    oneByOne now ops db = .error error ↔ ∃ earlier op later between effects,
      ops = earlier ++ op :: later ∧ oneByOne now earlier db = .ok (between, effects) ∧
        submit now op between = .error error := by
  constructor
  · intro h
    induction ops generalizing db with
    | nil => cases h
    | cons op rest ih =>
      rw [oneByOne] at h
      cases hsubmit : submit now op db with
      | error cause =>
        rw [hsubmit] at h
        cases h
        exact ⟨[], op, rest, db, [], rfl, rfl, hsubmit⟩
      | ok submitted =>
        obtain ⟨next, effect⟩ := submitted
        rw [hsubmit] at h
        change (oneByOne now rest next >>= _) = _ at h
        cases hrest : oneByOne now rest next with
        | ok =>
          rw [hrest] at h
          cases h
        | error cause =>
          rw [hrest] at h
          cases h
          obtain ⟨earlier, failing, later, between, effects, rfl, hearlier, hfails⟩ := ih hrest
          refine ⟨op :: earlier, failing, later, between, effect :: effects, rfl, ?_, hfails⟩
          rw [oneByOne, hsubmit]
          change (oneByOne now earlier next >>= _) = _
          rw [hearlier]
          rfl
  · rintro ⟨earlier, op, later, between, effects, rfl, hearlier, hfails⟩
    rw [oneByOne_append, hearlier]
    change (oneByOne now (op :: later) between >>= _) = _
    rw [oneByOne, hfails]
    rfl

/-! ### Effects -/

/-- True of an effect of the kind that the op has. -/
def Op.yields : Op → Effect → Bool
  | .upsert _, .created _ => true
  | .resolveForTarget .., .resolved _ => true
  | .resolveCollection .., .resolved _ => true
  | .resolveAllForUser .., .resolved _ => true
  | .restoreCollection .., .restored _ => true
  | .purgeTarget _, .purged _ => true
  | _, _ => false

/-- The effect of a step has the kind of the op. -/
theorem Stepped.yields {change : Change} (h : Stepped now db op change) :
    op.yields change.effect = true := by
  cases h with
  | blocked | inserted | restored | purged => rfl
  | resolved hop =>
    cases op with
    | resolveForTarget | resolveCollection | resolveAllForUser => rfl
    | upsert | restoreCollection | purgeTarget => cases hop

/-- Each op of a batch has one effect, of its own kind. -/
theorem Ran.yields {done : Run} (h : Ran now db ops done) :
    List.Forall₂ (fun op effect => op.yields effect = true) ops done.effects := by
  induction h with
  | nil => exact .nil
  | cons hstep _ ih => exact .cons hstep.yields ih

/-! ### Batches -/

/-- **A batch is its ops one by one.** It succeeds if and only if they do, with the same database
and the same effects, one of its own kind for each op; and it fails if and only if one of them does,
with the error of the first that fails, and then leaves the state as it was. -/
theorem apply_eq_oneByOne (now : Int64) (ops : List Op) (db : Database) :
    apply now ops db = oneByOne now ops db ∧
      (∀ op, apply now [op] db = (submit now op db).map fun (db, effect) => (db, [effect])) ∧
      (∀ after effects, apply now ops db = .ok (after, effects) →
        List.Forall₂ (fun op effect => op.yields effect = true) ops effects) ∧
      (∀ error, apply now ops db = .error error ↔ ∃ earlier op later between effects,
        ops = earlier ++ op :: later ∧ oneByOne now earlier db = .ok (between, effects) ∧
          submit now op between = .error error) ∧
      ∀ (s : Service.State) (error : Error), s.database = db → apply now ops db = .error error →
        (Service.Call.apply now ops).perform s = s := by
  refine ⟨apply_eq now ops db, fun op => apply_singleton now op db, ?_, ?_, ?_⟩
  · intro after effects h
    obtain ⟨done, hran, _, rfl⟩ := exists_ran_of_apply h
    exact hran.yields
  · intro error
    rw [apply_eq, oneByOne_eq_error_iff]
  · rintro s error rfl h
    rw [Service.Call.perform, h]
    rfl

/-- A to-do for ada, and then a set of ids of which one has no row: the second op fails. -/
theorem apply_eq_oneByOne_todoNotFound :
    let db : Database :=
      { users := [⟨1, "ada", false, 0, 0⟩], projects := [⟨1, "engine", "public", .integer 0⟩] }
    let ops : List Op :=
      [.upsert ⟨1, 1, 1, .row .issue 5, none, .marked⟩, .resolveCollection [1, 9] 1 .markDone]
    apply 7 ops db = .error (.todoNotFound 9) ∧ ∃ between,
      oneByOne 7 (ops.take 1) db = .ok (between, [.created (some 1)]) ∧
        submit 7 (.resolveCollection [1, 9] 1 .markDone) between = .error (.todoNotFound 9) := by
  intro db ops
  let between : Database :=
    { db with
      users := [⟨1, "ada", false, 1, 0⟩]
      todos := [TodoRow.ofNew 1 7 ⟨1, 1, 1, .row .issue 5, none, .marked⟩] }
  have hfirst : oneByOne 7 (ops.take 1) db = .ok (between, [.created (some 1)]) := by
    decide +kernel
  have hsecond : submit 7 (.resolveCollection [1, 9] 1 .markDone) between =
      .error (.todoNotFound 9) := by decide +kernel
  have hfails := (apply_eq_oneByOne 7 ops db).2.2.2.1 (.todoNotFound 9)
  exact ⟨hfails.2 ⟨_, _, [], between, _, rfl, hfirst, hsecond⟩, between, hfirst, hsecond⟩

end TodoLedger.Ledger
