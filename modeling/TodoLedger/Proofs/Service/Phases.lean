import TodoLedger.Proofs.Ledger.Batch
import TodoLedger.Service.Handle

/-!
# The two phases of an event

* `gather` is the first phase of an event: it asks the collaborators, who cannot change the
  database, and gives the ops that the ledger shall apply. `conclude` is the second phase, which
  asks nobody.
* **An event is its first phase, and then its second** (`perform_eq`, `handle_eq`), in any monad.
  Where the store takes every batch, the first phase is the plan (`gather_of_taken`,
  `gather_of_takesBatches`).
* **If the second phase fails, the state is as before** (`conclude_of_error`), and what it does to
  the database depends on the database only (`conclude_congr`).
-/

namespace TodoLedger.Service

open Ledger (Op Effect)

/-! ### The first phase -/

section Gather

variable {n : Type → Type} [Monad n] (c : Collaborators n) (settings : Settings)

/-- The ops that an event asks for, if the store takes them as a batch. -/
def gather (event : Event) (db : Database) : ExceptT Error n (List Op) := do
  let ops ← plan (c.witnesses db) settings event
  if !ops.isEmpty then (c.beginBatch db ops).adapt .store
  return ops

end Gather

/-! ### The second phase -/

section Conclude

variable (now : Int64) {gathered : Except Error (List Op)} {s : State}

/-- Applies the ops that were gathered as one batch, and counts their effects. -/
def conclude (gathered : Except Error (List Op)) (s : State) : Except Error (List Effect) × State :=
  match gathered with
  | .error error => (.error error, s)
  | .ok ops =>
    match Ledger.apply now ops s.database with
    | .error error => (.error error, s)
    | .ok (database, effects) => (.ok effects, ⟨database, s.metrics.countEffects ops effects⟩)

/-- A batch that is applied leaves its database and its effects. -/
theorem conclude_of_apply {ops : List Op} {db : Database} {effects : List Effect}
    (h : Ledger.apply now ops s.database = .ok (db, effects)) :
    conclude now (.ok ops) s = (.ok effects, ⟨db, s.metrics.countEffects ops effects⟩) := by
  rw [conclude, h]

/-- What succeeds is a batch that was applied. -/
theorem exists_apply_of_conclude {effects : List Effect}
    (h : (conclude now gathered s).1 = .ok effects) :
    ∃ ops, gathered = .ok ops ∧
      Ledger.apply now ops s.database = .ok ((conclude now gathered s).2.database, effects) := by
  cases gathered with
  | error => cases h
  | ok ops =>
    cases happly : Ledger.apply now ops s.database with
    | error error =>
      rw [conclude, happly] at h
      cases h
    | ok done =>
      rw [conclude_of_apply now happly] at h ⊢
      cases h
      exact ⟨ops, rfl, happly⟩

/-- **What fails leaves the state as it was.** -/
theorem conclude_of_error {error : Error} (h : (conclude now gathered s).1 = .error error) :
    (conclude now gathered s).2 = s := by
  cases gathered with
  | error => rfl
  | ok ops =>
    cases happly : Ledger.apply now ops s.database with
    | error => rw [conclude, happly]
    | ok done =>
      rw [conclude_of_apply now happly] at h
      cases h

/-- The database is as before, or it is that of a batch that was applied. -/
theorem conclude_database (now : Int64) (gathered : Except Error (List Op)) (s : State) :
    (conclude now gathered s).2.database = s.database ∨
      ∃ ops effects, gathered = .ok ops ∧
        Ledger.apply now ops s.database = .ok ((conclude now gathered s).2.database, effects) := by
  cases hresult : (conclude now gathered s).1 with
  | error error => exact .inl (by rw [conclude_of_error now hresult])
  | ok effects =>
    obtain ⟨ops, hops, happly⟩ := exists_apply_of_conclude now hresult
    exact .inr ⟨ops, effects, hops, happly⟩

/-- What the second phase gives does not depend on what was counted before. -/
theorem conclude_congr {t : State} (h : s.database = t.database)
    (gathered : Except Error (List Op)) :
    (conclude now gathered s).1 = (conclude now gathered t).1 ∧
      (conclude now gathered s).2.database = (conclude now gathered t).2.database := by
  cases gathered with
  | error => exact ⟨rfl, h⟩
  | ok ops =>
    rw [conclude, conclude, h]
    cases Ledger.apply now ops t.database with
    | error => exact ⟨rfl, h⟩
    | ok => exact ⟨rfl, rfl⟩

/-- Counts the event, and tells its outcome. -/
def report (event : Event) (done : Except Error (List Effect) × State) :
    Except Error Outcome × State :=
  (done.1.map outcomeOf, done.2.countEvent event.kind done.1.isOk)

/-- What is reported with success ran the ops that were gathered. -/
theorem exists_ran_of_report {event : Event} {outcome : Outcome}
    (h : (report event (conclude now gathered s)).1 = .ok outcome) :
    ∃ ops done, gathered = .ok ops ∧ Ledger.Ran now s.database ops done ∧
      (report event (conclude now gathered s)).2.database =
        Ledger.refresh done.touched done.database ∧
      outcome = outcomeOf done.effects := by
  cases hresult : (conclude now gathered s).1 with
  | error =>
    rw [report, hresult] at h
    cases h
  | ok effects =>
    rw [report, hresult] at h
    cases h
    obtain ⟨ops, hops, happly⟩ := exists_apply_of_conclude now hresult
    obtain ⟨done, hran, hafter, rfl⟩ := Ledger.exists_ran_of_apply happly
    exact ⟨ops, done, hops, hran, hafter, rfl⟩

end Conclude

/-! ### Both phases -/

section Perform

variable {n : Type → Type} [Monad n] [LawfulMonad n] (c : Collaborators n) (settings : Settings)
  (now : Int64)

/-- A batch goes to the store, if it has ops, and then to the ledger. -/
theorem commit_eq (ops : List Op) (s : State) :
    commit c now ops s = (conclude now · s) <$> (do
      if !ops.isEmpty then (c.beginBatch s.database ops).adapt .store
      return ops : ExceptT Error n (List Op)).run := by
  cases ops with
  | nil =>
    have hdone : conclude now (.ok []) s = (.ok [], s) :=
      conclude_of_apply now (Ledger.apply_nil now _)
    simp [commit, hdone]
  | cons op rest =>
    simp only [commit, List.isEmpty_cons, Bool.not_false, if_true, Bool.false_eq_true, if_false,
      ExceptT.run_bind, ExceptT.run_adapt, map_bind, bind_map_left]
    refine bind_congr fun begun => ?_
    cases begun with
    | error fault => simp [Except.mapError, conclude]
    | ok =>
      simp only [Except.mapError, ExceptT.run_pure, map_pure, conclude]
      cases Ledger.apply now (op :: rest) s.database <;> rfl

/-- **An event is its first phase, and then its second.** -/
theorem perform_eq (event : Event) (s : State) :
    perform c settings now event s =
      (conclude now · s) <$> (gather c settings event s.database).run := by
  rw [perform, gather, ExceptT.run_bind, map_bind]
  refine bind_congr fun planned => ?_
  cases planned with
  | error error => rw [map_pure]; rfl
  | ok ops => exact commit_eq c now ops s

/-- An event that is handled is counted after both phases. -/
theorem handle_eq (event : Event) (s : State) :
    handle c settings now event s =
      (fun gathered => report event (conclude now gathered s)) <$>
        (gather c settings event s.database).run := by
  rw [handle, perform_eq, map_eq_pure_bind, bind_assoc, map_eq_pure_bind]
  simp only [pure_bind]
  rfl

/-- A store that takes every batch adds nothing to what an event asks for. -/
theorem gather_of_taken {db : Database} (htaken : ∀ ops, c.beginBatch db ops = pure ())
    (event : Event) : gather c settings event db = plan (c.witnesses db) settings event := by
  have hbegun (ops : List Op) : (c.beginBatch db ops).adapt Error.store = pure () := by
    rw [htaken]
    exact map_pure (Except.mapError Error.store) (Except.ok ())
  rw [gather]
  conv_rhs => rw [← bind_pure (plan (c.witnesses db) settings event)]
  refine bind_congr fun ops => ?_
  rw [hbegun]
  split
  · exact pure_bind _ _
  · rfl

end Perform

section Worlds

variable {σ : Type} (c : Collaborators (StateM σ)) (settings : Settings) (now : Int64)

/-- Only the first phase of an event changes the world of the collaborators. -/
theorem run_perform (event : Event) (s : State) (world : σ) :
    (perform c settings now event s).run world =
      (conclude now ((gather c settings event s.database).run.run world).1 s,
        ((gather c settings event s.database).run.run world).2) := by
  rw [perform_eq]
  rfl

/-- An event is reported after the second phase. -/
theorem run_handle (event : Event) (s : State) (world : σ) :
    (handle c settings now event s).run world =
      (report event (conclude now ((gather c settings event s.database).run.run world).1 s),
        ((gather c settings event s.database).run.run world).2) := by
  rw [handle_eq]
  rfl

/-- What is done one after the other goes on in the world that was left. -/
theorem run_run_bind {ε α β : Type} (x : ExceptT ε (StateM σ) α) (f : α → ExceptT ε (StateM σ) β)
    (world : σ) :
    (x >>= f).run.run world = match x.run.run world with
      | (.ok a, world) => (f a).run.run world
      | (.error error, world) => (.error error, world) := by
  rw [ExceptT.run_bind, StateT.run_bind]
  rcases x.run.run world with ⟨_ | _, _⟩ <;> rfl

/-- Where nobody is asked what an event asks for, the first phase gives that, or fails. -/
theorem eq_of_gather {event : Event} {db : Database} {planned ops : List Op} {world : σ}
    (hplan : plan (c.witnesses db) settings event = pure planned)
    (h : ((gather c settings event db).run.run world).1 = .ok ops) : ops = planned := by
  rw [gather, hplan, pure_bind] at h
  split at h
  · rw [run_run_bind] at h
    split at h
    · cases h
      rfl
    · cases h
  · cases h
    rfl

/-- The store takes every batch, whatever the world is. -/
def TakesBatches (c : Collaborators (StateM σ)) : Prop :=
  ∀ db ops world, ((c.beginBatch db ops).run.run world).1 = .ok ()

/-- The built-in store does. -/
theorem takesBatches_builtIn (settings : Settings) :
    TakesBatches (.builtIn settings : Collaborators (StateM σ)) := fun _ _ _ => rfl

/-- Where nobody is asked what an event asks for, and the store takes it, the first phase gives
that. -/
theorem gather_of_takesBatches (htakes : TakesBatches c) {event : Event} {db : Database}
    {planned : List Op} (hplan : plan (c.witnesses db) settings event = pure planned) (world : σ) :
    ((gather c settings event db).run.run world).1 = .ok planned := by
  rw [gather, hplan, pure_bind]
  split
  · have hbegun : (((c.beginBatch db planned).adapt Error.store).run.run world).1 =
        ((c.beginBatch db planned).run.run world).1.mapError Error.store := rfl
    rw [htakes] at hbegun
    rw [run_run_bind]
    generalize ((c.beginBatch db planned).adapt Error.store).run.run world = begun at hbegun
    obtain ⟨_, between⟩ := begun
    cases hbegun
    rfl
  · rfl

/-- What nobody is asked about goes to the ledger at once, if the store takes it. -/
theorem run_handle_of_takesBatches (htakes : TakesBatches c) {event : Event} {s : State}
    {planned : List Op} (hplan : plan (c.witnesses s.database) settings event = pure planned)
    (world : σ) : ((handle c settings now event s).run world).1 =
      report event (conclude now (.ok planned) s) := by
  rw [run_handle, gather_of_takesBatches c settings htakes hplan]

/-- **A removal that fails is counted. One that succeeds is followed by the event of the
destruction.** -/
theorem run_destroy (target : Target) (removal : ExceptT Fault (StateM σ) Unit) (s : State)
    (world : σ) :
    ((destroy c settings now target removal s).run world).1 =
      match removal.run.run world with
      | (.error fault, _) => (.error (.store (fault.within (.destroy target.reference))),
          s.countEvent .targetDestroyed false)
      | (.ok (), between) =>
        let done := conclude now
          ((gather c settings (.targetDestroyed target) s.database).run.run between).1 s
        (done.1.map purgedUsers, done.2.countEvent .targetDestroyed done.1.isOk) := by
  rw [destroy, StateT.run_bind]
  obtain ⟨removed, between⟩ := removal.run.run world
  cases removed with
  | error => rfl
  | ok =>
    change (fun performed : (Except Error (List Effect) × State) × σ =>
      (performed.1.1.map purgedUsers,
        performed.1.2.countEvent .targetDestroyed performed.1.1.isOk))
      ((perform c settings now (.targetDestroyed target) s).run between) = _
    rw [run_perform]

/-- The removal of a target writes nothing, or what the event of its destruction writes. -/
theorem run_destroy_database (target : Target) (removal : ExceptT Fault (StateM σ) Unit) (s : State)
    (world : σ) :
    ((destroy c settings now target removal s).run world).1.2.database = s.database ∨
      ∃ between, ((destroy c settings now target removal s).run world).1.2.database =
        (conclude now ((gather c settings (.targetDestroyed target) s.database).run.run between).1
          s).2.database := by
  rw [run_destroy]
  obtain ⟨removed, between⟩ := removal.run.run world
  cases removed with
  | error => exact .inl rfl
  | ok => exact .inr ⟨between, rfl⟩

end Worlds

end TodoLedger.Service
