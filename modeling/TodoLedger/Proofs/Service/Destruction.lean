import TodoLedger.Proofs.Ledger.Purging
import TodoLedger.Proofs.Service.History

/-!
# The removal of a target

* `Database.IsPurged`: a ledger without the to-dos on a target, where all other rows are as they
  were, all cached numbers are right, and those are known who had a pending one. **Every ledger has
  one** (`exists_isPurged`).
* A removal that fails is where it ends (`run_destroy_of_error`). One that succeeds is followed by
  the event of the destruction (`exists_run_destroy_of_ok`), which purges the ledger or fails
  (`conclude_targetDestroyed`).
* **A target is removed with its to-dos; or it is not, and they are kept; or it is and they are
  kept, and the event of the destruction deletes them later** (`destroy_after`).
-/

namespace TodoLedger

open Ledger (Op Effect)

variable {db : Database} {target : TargetRef}

/-! ### The ledger without a target -/

/-- `after` is the ledger `before` without the to-dos on the target, of which `users` had pending
ones. -/
structure Database.IsPurged (target : TargetRef) (users : List UserId) (before after : Database) :
    Prop where
  /-- The rows on the target are gone, and all others are as they were. -/
  todos : after.todos = before.todos.filter (!·.points target)
  gone : after.todosOfTarget target = .ok []
  kept : ∀ other ≠ target, after.todosOfTarget other = before.todosOfTarget other
  /-- The users had a pending to-do on the target. Each is named once, in ascending order. -/
  owners : ∀ user, user ∈ users ↔ ∃ row ∈ before.todos,
    row.points target = true ∧ row.isPending = true ∧ row.belongsTo user = true
  ascending : users.Pairwise (· < ·)
  /-- What is cached with each user are the numbers of the rows that are left. -/
  counted : ∀ {id user}, after.user? id = some user →
    after.cachedCounts id = .ok ⟨user.pendingCount, user.doneCount⟩ ∧
      after.countTodos id = .ok ⟨user.pendingCount, user.doneCount⟩ ∧
      user.pendingCount.toNat + user.doneCount.toNat = after.todos.countP (·.belongsTo id)
  /-- The accounts are the same but for these numbers. -/
  accounts : after.users.map ({ · with pending := 0, done := 0 }) =
    before.users.map ({ · with pending := 0, done := 0 })
  projects : after.projects = before.projects
  members : after.members = before.members

/-- No to-do on the target is listed. -/
theorem todosOfTarget_without (db : Database) (target : TargetRef) :
    (db.without target).todosOfTarget target = .ok [] := by
  have hnone : (db.without target).todos.filter (·.points target) = [] := by
    change (db.todos.filter (!·.points target)).filter (·.points target) = []
    simp [List.filter_filter]
  rw [Database.todosOfTarget, hnone, List.mergeSort_nil]
  rfl

/-- The to-dos on another target are listed as before. -/
theorem todosOfTarget_without_of_ne {other : TargetRef} (h : other ≠ target) :
    (db.without target).todosOfTarget other = db.todosOfTarget other := by
  have hsame : (db.without target).todos.filter (·.points other) =
      db.todos.filter (·.points other) := by
    change (db.todos.filter (!·.points target)).filter (·.points other) = _
    rw [List.filter_filter]
    refine List.filter_congr fun row _ => ?_
    cases hother : row.points other with
    | false => rfl
    | true =>
      have hnot : row.points target = false :=
        Bool.eq_false_iff.2 fun hpoints => h (TodoRow.eq_of_points hother hpoints)
      rw [hnot]
      rfl
  rw [Database.todosOfTarget, Database.todosOfTarget, hsame]

/-- **Every ledger can be purged of a target**, at any time and with the same result. -/
theorem exists_isPurged (hwf : WellFormed db) (hcounted : Counted db) (target : TargetRef) :
    ∃ users after, db.IsPurged target users after ∧
      ∀ now, Ledger.apply now [.purgeTarget target] db = .ok (after, [.purged users]) := by
  obtain ⟨users, hsubmit, hascending, howners⟩ := exists_submit_purge hwf hcounted target
  have happly (now : Int64) : Ledger.apply now [.purgeTarget target] db =
      .ok (db.without target, [.purged users]) := by
    rw [Ledger.apply_singleton, hsubmit]
    rfl
  have hafter : WellFormed (db.without target) := hwf.apply (happly 0)
  refine ⟨users, db.without target, {
    todos := rfl
    gone := todosOfTarget_without db target
    kept := fun other h => todosOfTarget_without_of_ne h
    owners := howners
    ascending := hascending
    counted := (hcounted.apply hwf (happly 0)).counts hafter
    accounts := ?_
    projects := rfl
    members := rfl }, happly⟩
  rw [Database.without, Snapshot.recountAll, List.map_map]
  rfl

namespace Service

/-! ### The removal and the event after it -/

section Worlds

variable {σ : Type} (c : Collaborators (StateM σ)) (settings : Settings) (now : Int64)
  (target : Target) {removal : ExceptT Fault (StateM σ) Unit} (s : State) {world : σ}

/-- The event of the destruction asks nobody. -/
theorem plan_targetDestroyed {n : Type → Type} [Monad n] (w : Witnesses n) (settings : Settings)
    (target : Target) :
    plan w settings (.targetDestroyed target) = pure [.purgeTarget target.reference] := rfl

/-- A target that is not removed keeps its to-dos. -/
theorem run_destroy_of_error {fault : Fault} (h : (removal.run.run world).1 = .error fault) :
    ((destroy c settings now target removal s).run world).1 =
      (.error (.store (fault.within (.destroy target.reference))),
        s.countEvent .targetDestroyed false) := by
  rw [run_destroy]
  generalize removal.run.run world = removed at h
  obtain ⟨_, between⟩ := removed
  cases h
  rfl

/-- A target that is removed is followed by the event of its destruction. -/
theorem exists_run_destroy_of_ok (h : (removal.run.run world).1 = .ok ()) :
    ∃ between, ((destroy c settings now target removal s).run world).1 =
      let done := conclude now
        ((gather c settings (.targetDestroyed target) s.database).run.run between).1 s
      (done.1.map purgedUsers, done.2.countEvent .targetDestroyed done.1.isOk) := by
  rw [run_destroy]
  generalize removal.run.run world = removed at h
  obtain ⟨_, between⟩ := removed
  cases h
  exact ⟨between, rfl⟩

variable {now} {target} {s} {users : List UserId} {purged : Database}

/-- The event of the destruction purges the ledger, or fails. -/
theorem conclude_targetDestroyed
    (happly : Ledger.apply now [.purgeTarget target.reference] s.database =
      .ok (purged, [.purged users])) (world : σ) :
    let done := conclude now
      ((gather c settings (.targetDestroyed target) s.database).run.run world).1 s
    done.1 = .ok [.purged users] ∧ done.2.database = purged ∨
      ∃ error, done = (.error error, s) := by
  intro done
  cases hdone : done.1 with
  | error error => exact .inr ⟨error, Prod.ext hdone (conclude_of_error now hdone)⟩
  | ok effects =>
    -- What was applied is the batch of the purge, and that has one result only.
    obtain ⟨ops, hops, hsame⟩ := exists_apply_of_conclude now hdone
    rw [eq_of_gather c settings (plan_targetDestroyed _ settings target) hops, happly] at hsame
    obtain ⟨hdatabase, rfl⟩ := Prod.mk.inj (Except.ok.inj hsame)
    exact .inl ⟨rfl, hdatabase.symm⟩

/-- The event of the destruction purges the ledger, if the store takes that. -/
theorem run_handle_targetDestroyed (htakes : TakesBatches c)
    (happly : Ledger.apply now [.purgeTarget target.reference] s.database =
      .ok (purged, [.purged users])) (world : σ) :
    let (answer, after) := ((handle c settings now (.targetDestroyed target) s).run world).1
    answer = .ok {} ∧ after.database = purged := by
  rw [run_handle_of_takesBatches c settings now htakes (plan_targetDestroyed _ settings target),
    conclude_of_apply now happly]
  exact ⟨rfl, rfl⟩

end Worlds

/-! ### Both -/

/-- The event of the target's destruction, handled next, leaves the ledger `purged`, if the store
takes it. -/
def State.MendedBy (s : State) (target : Target) (purged : Database) : Prop :=
  ∀ {σ : Type} (c : Collaborators (StateM σ)) (settings : Settings) (now : Int64) (world : σ),
    TakesBatches c →
    let (answer, after) := ((handle c settings now (.targetDestroyed target) s).run world).1
    answer = .ok {} ∧ after.database = purged

/-- **A target is removed with its to-dos; or it is not, and they are kept; or it is and they are
kept, and the event of the destruction deletes them later** as if they had been deleted at once. The
removal and the collaborators may do as they like. -/
theorem destroy_after (calls : List Call) (target : Target) :
    let s := State.after calls
    ∃ users purged, s.database.IsPurged target.reference users purged ∧
      ∀ {σ : Type} (c : Collaborators (StateM σ)) (settings : Settings) (now : Int64)
        (removal : ExceptT Fault (StateM σ) Unit) (world : σ),
        let (answer, after) := ((destroy c settings now target removal s).run world).1
        match (removal.run.run world).1 with
        | .error fault =>
          answer = .error (.store (fault.within (.destroy target.reference))) ∧
            after = s.countEvent .targetDestroyed false
        | .ok () =>
          (TakesBatches c → answer = .ok users) ∧
          (∀ removed, answer = .ok removed → removed = users ∧ after.database = purged) ∧
          ∀ error, answer = .error error →
            after = s.countEvent .targetDestroyed false ∧ after.MendedBy target purged := by
  intro s
  obtain ⟨users, purged, hpurged, happly⟩ :=
    exists_isPurged (wellFormed_after calls) (counted_after calls) target.reference
  refine ⟨users, purged, hpurged, fun {σ} c settings now removal world => ?_⟩
  cases hremoved : (removal.run.run world).1 with
  | error fault =>
    rw [run_destroy_of_error c settings now target s hremoved]
    exact ⟨rfl, rfl⟩
  | ok =>
    obtain ⟨between, hrun⟩ := exists_run_destroy_of_ok c settings now target s hremoved
    rw [hrun]
    refine ⟨fun htakes => ?_, ?_⟩
    · rw [gather_of_takesBatches c settings htakes (plan_targetDestroyed _ settings target),
        conclude_of_apply now (happly now)]
      exact congrArg Except.ok (List.append_nil users)
    · rcases conclude_targetDestroyed c settings (happly now) between with
        ⟨heffects, hdatabase⟩ | ⟨error, hdone⟩
      · rw [heffects]
        refine ⟨fun removed hanswer => ?_, fun error hanswer => nomatch hanswer⟩
        cases hanswer
        exact ⟨List.append_nil users, hdatabase⟩
      · rw [hdone]
        refine ⟨fun removed hanswer => (nomatch hanswer), fun _ _ => ⟨rfl, ?_⟩⟩
        exact fun c settings now world htakes => run_handle_targetDestroyed c settings
          (s := s.countEvent .targetDestroyed false) htakes (happly now) world

/-- An issue on which ada has a pending to-do and bob one that is done, in a store that takes no
batch. -/
theorem destroy_after_refused :
    let calls : List Call := [.createUser "ada" false, .createUser "bob" false,
      .createProject "engine" .everyone false,
      .apply 7 [.upsert ⟨1, 2, 1, .row .issue 5, none, .assigned⟩,
        .upsert ⟨2, 1, 1, .row .issue 5, none, .assigned⟩,
        .resolveForTarget (.row .issue 5) (some 2) none]]
    let target : Target := .issue { id := 5, projectId := 1, authorId := 1 }
    let fault : Fault := ⟨[], .refused⟩
    let works : Collaborators (StateM Unit) := .builtIn {}
    let fails : Collaborators (StateM Unit) := { works with beginBatch := fun _ _ => throw fault }
    let s := State.after calls
    let after := ((destroy fails {} 8 target (pure ()) s).run ()).1.2
    ((destroy works {} 8 target (pure ()) s).run ()).1.1 = .ok [1] ∧
      ((destroy fails {} 8 target (pure ()) s).run ()).1.1 = .error (.store fault) ∧
      after = s.countEvent .targetDestroyed false ∧
      ∃ purged, s.database.IsPurged target.reference [1] purged ∧ after.MendedBy target purged := by
  intro calls target fault works fails s after
  have hworks : ((destroy works {} 8 target (pure ()) s).run ()).1.1 = .ok [1] := by
    decide +kernel
  have hfails : ((destroy fails {} 8 target (pure ()) s).run ()).1.1 = .error (.store fault) := by
    decide +kernel
  obtain ⟨users, purged, hpurged, hdestroy⟩ := destroy_after calls target
  obtain ⟨-, hdone, -⟩ := hdestroy works {} 8 (pure ()) ()
  obtain ⟨-, -, hrefused⟩ := hdestroy fails {} 8 (pure ()) ()
  obtain ⟨rfl, -⟩ := hdone _ hworks
  obtain ⟨hafter, hmended⟩ := hrefused _ hfails
  exact ⟨hworks, hfails, hafter, purged, hpurged, hmended⟩

end Service

end TodoLedger
