import TodoLedger.Proofs.Counters
import TodoLedger.Proofs.Service.Failure
import TodoLedger.Proofs.Service.Recording
import TodoLedger.Proofs.Service.Request

/-!
# The counters and the rows of to-dos

* `Metrics.Balances m rows`: the counters of new to-dos are the numbers of rows by their actions,
  and what was resolved is what was restored and what is done.
* **An op that is no purge keeps the balance when its effect is counted** (`Metrics.Balances.step`),
  and so does a batch of such ops (`Metrics.Balances.run`). An effect lists each row that the op
  changed once (`length_idsOf`).
* **After all calls of which none destroys a target, or goes to the ledger without the service, the
  series balance the rows** (`Service.series_balance`).
-/

namespace TodoLedger

open Ledger (Op Effect Change Run Stepped Ran revised idsOf)

variable {m : Metrics} {now : Int64} {db : Database} {op : Op}

/-! ### Numbers of rows -/

/-- In a keyed table some rows have as many ids as there are. -/
theorem length_idsOf (hkeyed : Keyed (db.todos.map (·.id))) (p : TodoRow → Bool) :
    (idsOf (db.todos.filter p)).length = db.todos.countP p := by
  have hkept : ((db.todos.filter p).map (·.id)).Nodup :=
    hkeyed.nodup.sublist (List.filter_sublist.map _)
  have hnodup : ((db.todos.filter p).map (idOfRow ·.id)).Nodup := by
    have hinjective : Function.Injective idOfRow :=
      fun a b hab => by rw [← rowId_idOfRow a, hab, rowId_idOfRow]
    have hids := hkept.map hinjective
    rwa [List.map_map] at hids
  have hperm : (idsOf (db.todos.filter p)).Perm ((db.todos.filter p).map (idOfRow ·.id)) :=
    (List.perm_ext_iff_of_nodup (nodup_idsOf _) hnodup).2 fun id => mem_ascending
  rw [hperm.length_eq, List.length_map, List.countP_eq_length_filter]

/-- Where some rows are rewritten, the number of rows of a kind changes by the rewritten ones that
come to be of that kind, and by those that cease to be. -/
theorem countP_rewritten (p affects : TodoRow → Bool) (f : TodoRow → TodoRow)
    (rows : List TodoRow) :
    (rows.map fun row => if affects row then f row else row).countP p +
        rows.countP (fun row => affects row && p row) =
      rows.countP p + rows.countP fun row => affects row && p (f row) := by
  induction rows with
  | nil => rfl
  | cons row rest ih =>
    simp only [List.map_cons, List.countP_cons]
    cases haffects : affects row
    · simp only [Bool.false_eq_true, if_false, Bool.false_and]
      omega
    · simp only [if_true, Bool.true_and]
      omega

/-- Adding to one of several counters adds to their sum. -/
theorem Metrics.sum_bump {α : Type} [DecidableEq α] {keys : List α} (hkeys : keys.Nodup) {key : α}
    (hkey : key ∈ keys) (counters : α → Nat) (amount : Nat) :
    (keys.map (bump counters key amount)).sum = (keys.map counters).sum + amount := by
  induction keys with
  | nil => exact absurd hkey List.not_mem_nil
  | cons first rest ih =>
    rw [List.nodup_cons] at hkeys
    rw [List.map_cons, List.sum_cons, List.map_cons, List.sum_cons]
    by_cases hfirst : first = key
    · subst hfirst
      have hrest : rest.map (bump counters first amount) = rest.map counters := by
        refine List.map_congr_left fun other hother => ?_
        have hne : other ≠ first := fun h => hkeys.1 (h ▸ hother)
        rw [bump, if_neg hne]
      rw [hrest, bump, if_pos rfl]
      omega
    · have hmem : key ∈ rest := (List.mem_cons.1 hkey).resolve_left (Ne.symm hfirst)
      rw [ih hkeys.2 hmem, bump, if_neg hfirst]
      omega

/-- Every action is listed once. -/
theorem Action.nodup_all : Action.all.Nodup := by decide

/-- Every action is listed. -/
theorem Action.mem_all (action : Action) : action ∈ all := by cases action <;> decide

/-- Every way to resolve is listed once. -/
theorem Resolution.nodup_all : Resolution.all.Nodup := by decide

/-- Every way to resolve is listed. -/
theorem Resolution.mem_all (resolution : Resolution) : resolution ∈ all := by
  cases resolution <;> decide

/-! ### The balance -/

/-- The counters agree with the rows of to-dos. -/
structure Metrics.Balances (m : Metrics) (rows : List TodoRow) : Prop where
  created : ∀ action, m.created action = rows.countP (·.action = .integer action.code)
  createdSum : (Action.all.map m.created).sum = rows.length
  resolvedSum : (Resolution.all.map m.resolved).sum = m.restored + rows.countP (·.isDone)

namespace Metrics.Balances

/-- Nothing was counted, and there are no rows. -/
theorem zero : Metrics.zero.Balances [] := ⟨fun _ => rfl, rfl, rfl⟩

/-- A new row is counted under its action. -/
theorem insert {rows : List TodoRow} (h : m.Balances rows) (id now : Int64) (todo : NewTodo) :
    ({ m with created := bump m.created todo.action 1 } : Metrics).Balances
      (rows ++ [TodoRow.ofNew id now todo]) := by
  refine ⟨fun action => ?_, ?_, ?_⟩
  · rw [List.countP_append, ← h.created]
    by_cases haction : action = todo.action
    · subst haction
      simp [bump, TodoRow.ofNew]
    · have hcode : todo.action.code ≠ action.code := fun hcode =>
        haction (Action.code_injective hcode).symm
      simp [bump, haction, TodoRow.ofNew, hcode]
  · rw [sum_bump Action.nodup_all (Action.mem_all _), h.createdSum, List.length_append]
    rfl
  · rw [List.countP_append]
    exact h.resolvedSum

/-- Rewritten rows are counted, if what is counted as resolved and as restored makes up for the rows
that come to be done and for those that cease to be. -/
theorem rewritten {m' : Metrics} {rows : List TodoRow} {affects : TodoRow → Bool}
    {f : TodoRow → TodoRow} (h : m.Balances rows) (hf : ∀ row, (f row).action = row.action)
    (hcreated : m'.created = m.created)
    (hcounted : (Resolution.all.map m'.resolved).sum + m.restored +
        rows.countP (fun row => affects row && row.isDone) =
      (Resolution.all.map m.resolved).sum + m'.restored +
        rows.countP fun row => affects row && (f row).isDone) :
    m'.Balances (rows.map fun row => if affects row then f row else row) := by
  refine ⟨fun action => ?_, ?_, ?_⟩
  · have hsame := countP_rewritten (·.action = .integer action.code) affects f rows
    simp only [hf] at hsame
    rw [hcreated, h.created]
    omega
  · rw [hcreated, h.createdSum, List.length_map]
  · have hdone := countP_rewritten (·.isDone) affects f rows
    have hbefore := h.resolvedSum
    omega

/-- Rows that become done are counted under the way in which the op resolves. -/
theorem resolve (h : m.Balances db.todos) (hkeyed : Keyed (db.todos.map (·.id)))
    {resolution : Resolution} (hop : resolutionOf? op = some resolution) :
    ({ m with resolved := bump m.resolved resolution (idsOf (db.todos.filter op.affects)).length } :
      Metrics).Balances (revised now op db).todos := by
  have hnone : db.todos.countP (fun row => op.affects row && row.isDone) = 0 := by
    rw [List.countP_eq_zero]
    intro row _ haffected
    rw [Bool.and_eq_true] at haffected
    rw [isDone_eq_false_of_isPending (Op.isPending_of_affects hop haffected.1)] at haffected
    cases haffected.2
  have hall : (fun row => op.affects row && (row.resolved now resolution).isDone) = op.affects :=
    funext fun row => Bool.and_true _
  rw [Ledger.revised_of_rewrite (Op.rewrite_of_resolves hop)]
  refine h.rewritten (fun _ => rfl) rfl ?_
  rw [hnone, hall, sum_bump Resolution.nodup_all (Resolution.mem_all resolution),
    length_idsOf hkeyed]
  dsimp only
  omega

/-- Rows that become pending again are counted. -/
theorem restore (h : m.Balances db.todos) (hkeyed : Keyed (db.todos.map (·.id)))
    (ids : List TodoId) (user : UserId) :
    ({ m with restored := m.restored +
        (idsOf (db.todos.filter (Op.restoreCollection ids user).affects)).length } :
      Metrics).Balances (revised now (.restoreCollection ids user) db).todos := by
  have hall : (fun row => (Op.restoreCollection ids user).affects row && row.isDone) =
      (Op.restoreCollection ids user).affects := by
    funext row
    rw [Op.affects, Bool.and_right_comm, Bool.and_self]
  have hnone : db.todos.countP (fun row =>
      (Op.restoreCollection ids user).affects row && (row.restored now).isDone) = 0 := by
    rw [List.countP_eq_zero]
    intro row _ haffected
    cases (Bool.and_eq_true_iff.1 haffected).2
  rw [Ledger.revised_of_rewrite (Op.rewrite_restoreCollection ids user)]
  refine h.rewritten (fun _ => rfl) rfl ?_
  rw [hnone, hall, length_idsOf hkeyed]
  dsimp only
  omega

/-- **An op that is no purge keeps the balance when its effect is counted.** -/
theorem step {change : Change} (h : m.Balances db.todos) (hkeyed : Keyed (db.todos.map (·.id)))
    (hstep : Stepped now db op change) (hop : ∀ target, op ≠ .purgeTarget target) :
    (m.countEffect op change.effect).Balances change.database.todos := by
  cases hstep with
  | blocked => exact h
  | @inserted todo id => exact h.insert id now todo
  | @resolved _ resolution _ hresolves =>
    have hcounted (ids : List TodoId) : m.countEffect op (.resolved ids) =
        { m with resolved := bump m.resolved resolution ids.length } := by
      cases op <;> cases hresolves <;> rfl
    rw [hcounted]
    exact h.resolve hkeyed hresolves
  | @restored ids user => exact h.restore hkeyed ids user
  | @purged target => exact absurd rfl (hop target)

/-- **Ops that are no purges keep the balance when their effects are counted.** -/
theorem run {ops : List Op} {done : Run} (h : m.Balances db.todos) (hdb : WellFormed db)
    (hran : Ran now db ops done) (hops : ∀ op ∈ ops, ∀ target, op ≠ .purgeTarget target) :
    (m.countEffects ops done.effects).Balances done.database.todos := by
  induction hran generalizing m with
  | nil => exact h
  | cons hstep _ ih =>
    rw [List.forall_mem_cons] at hops
    exact ih (h.step hdb.todos hstep hops.1) (hdb.step hstep) hops.2

end Metrics.Balances

/-! ### Calls -/

namespace Service

/-- The second phase of an event keeps the balance, if there is no purge among the ops. -/
theorem balances_conclude {gathered : Except Error (List Op)} {s : State}
    (h : s.metrics.Balances s.database.todos) (hdb : WellFormed s.database)
    (hops : ∀ ops, gathered = .ok ops → ∀ op ∈ ops, ∀ target, op ≠ .purgeTarget target) :
    (conclude now gathered s).2.metrics.Balances (conclude now gathered s).2.database.todos := by
  cases gathered with
  | error => exact h
  | ok ops =>
    cases happly : Ledger.apply now ops s.database with
    | error =>
      rw [conclude, happly]
      exact h
    | ok applied =>
      obtain ⟨done, hran, hdatabase, heffects⟩ := Ledger.exists_ran_of_apply happly
      rw [conclude_of_apply now happly, heffects, hdatabase]
      exact h.run hdb hran (hops ops rfl)

/-- True of the calls that make accounts, and of all events but the destruction of a target. -/
def Call.isTallied : Call → Bool
  | .createUser .. | .createProject .. | .setMember .. => true
  | .handle _ _ _ event => event.kind ≠ .targetDestroyed
  | .apply .. | .destroy .. => false

/-- An event that destroys no target asks for no purge. -/
theorem ne_purgeTarget_of_asksFor {event : Event} {ops : List Op}
    (hkind : event.kind ≠ .targetDestroyed) (h : event.AsksFor ops) :
    ∀ op ∈ ops, ∀ target, op ≠ .purgeTarget target := by
  rintro op hop target rfl
  obtain ⟨todos, rfl, _⟩ := h
  rcases List.mem_append.1 hop with hop | hop
  · obtain ⟨destroyed, rfl, _⟩ := Event.eq_of_revision?_purges (Option.mem_toList.1 hop)
    exact hkind rfl
  · obtain ⟨todo, _, hupsert⟩ := List.mem_map.1 hop
    cases hupsert

/-- Where neither tables nor counters of to-dos differ, these balance as before. -/
theorem State.SameLedger.balances {s t : State} (hsame : s.SameLedger t)
    (h : s.metrics.Balances s.database.todos) : t.metrics.Balances t.database.todos := by
  rw [hsame.database]
  exact ⟨hsame.created ▸ h.created, hsame.created ▸ h.createdSum,
    hsame.resolved ▸ hsame.restored ▸ h.resolvedSum⟩

/-- **A tallied call keeps the balance.** -/
theorem balances_perform {s : State} (h : s.metrics.Balances s.database.todos)
    (hdb : WellFormed s.database) (call : Call) (hcall : call.isTallied = true) :
    (call.perform s).metrics.Balances (call.perform s).database.todos := by
  by_cases hmakes : call.makesAccounts = true
  · obtain ⟨htodos, hmetrics⟩ := Call.perform_of_makesAccounts hmakes s
    rw [htodos, hmetrics]
    exact h
  · cases call with
    | createUser | createProject | setMember => exact absurd rfl hmakes
    | handle around settings now event =>
      rw [Call.isTallied, decide_eq_true_eq] at hcall
      rw [Call.perform, run_handle]
      exact (State.sameLedger_countEvent _ _ _).balances (balances_conclude h hdb fun ops hops =>
        ne_purgeTarget_of_asksFor hcall (gives_gather _ _ _ _ _ ops hops))
    | apply | destroy => cases hcall

/-- **After tallied calls the counters balance the rows.** -/
theorem balances_after (calls : List Call) (h : ∀ call ∈ calls, call.isTallied = true) :
    (State.after calls).metrics.Balances (State.after calls).database.todos := by
  induction calls using List.reverseRecOn with
  | nil => exact .zero
  | append_singleton calls call ih =>
    rw [List.forall_mem_append, List.forall_mem_singleton] at h
    rw [State.after_concat]
    exact balances_perform (ih h.1) (wellFormed_after calls) call h.2

/-- **The series balance the rows.** After all tallied calls, the new to-dos of each action are the
rows with that action, what was resolved less what was restored is what is done, and what was
created, less what was resolved, with what was restored, is what is pending. -/
theorem series_balance (calls : List Call) (h : ∀ call ∈ calls, call.isTallied = true) :
    let m := (State.after calls).metrics
    let rows := (State.after calls).database.todos
    (∀ action : Action, m.series "todos_created_total" [("action", action.name)] =
        rows.countP (·.action = .integer action.code)) ∧
      (m.total "todos_resolved_total" : Int) - m.total "todos_restored_total" =
        rows.countP (·.isDone) ∧
      (m.total "todos_created_total" : Int) - m.total "todos_resolved_total" +
        m.total "todos_restored_total" = rows.countP (·.isPending) := by
  intro m rows
  have hbalances : m.Balances rows := balances_after calls h
  have hlives : rows.countP (·.isPending) + rows.countP (·.isDone) = rows.length :=
    countP_lives fun row hrow => ((wellFormed_after calls).todoRows row hrow).lives
  have hcreated : m.total "todos_created_total" = (Action.all.map m.created).sum := rfl
  have hresolved : m.total "todos_resolved_total" = (Resolution.all.map m.resolved).sum := rfl
  have hrestored : m.total "todos_restored_total" = m.restored := rfl
  have hdone := hbalances.resolvedSum
  have hall := hbalances.createdSum
  refine ⟨fun action => ?_, ?_, ?_⟩
  · rw [← hbalances.created]
    have hsamples : m.samples "todos_created_total" =
        Action.all.map fun action => ⟨[("action", action.name)], m.created action⟩ := rfl
    exact Metrics.series_of_samples hsamples (by decide) (Action.mem_all action)
  · rw [hresolved, hrestored]
    omega
  · rw [hcreated, hresolved, hrestored]
    omega

/-- Ada and cat are assigned, ada resolves her to-do twice and restores it, and then resolves it
once more: of two rows one is done, which was resolved twice and restored once. -/
theorem series_balance_resolve_restore :
    let around : Surroundings := ⟨Unit, .builtIn {}, ()⟩
    let issue : Issue := { id := 5, projectId := 1, authorId := 2, assignees := [1, 3] }
    let calls : List Call := [.createUser "ada" false, .createUser "bob" false,
      .createUser "cat" false, .createProject "engine" .everyone false,
      .handle around {} 7 (.newIssue issue 2), .handle around {} 8 (.resolveTodos [1] 1 .markDone),
      .handle around {} 9 (.resolveTodos [1] 1 .apiDone),
      .handle around {} 10 (.restoreTodos [1] 1),
      .handle around {} 11 (.resolveTodos [1] 1 .apiDone)]
    let m := (State.after calls).metrics
    m.series "todos_created_total" [("action", "assigned")] = 2 ∧
      (m.total "todos_resolved_total" : Int) - m.total "todos_restored_total" = 1 ∧
      (m.total "todos_created_total" : Int) - m.total "todos_resolved_total" +
        m.total "todos_restored_total" = 1 := by
  intro around issue calls m
  have htallied : ∀ call ∈ calls, call.isTallied = true := by
    simp [calls, Call.isTallied, Event.kind]
  have hrows : (State.after calls).database.todos.countP (·.action = .integer 1) = 2 ∧
      (State.after calls).database.todos.countP (·.isDone) = 1 ∧
      (State.after calls).database.todos.countP (·.isPending) = 1 := by decide +kernel
  obtain ⟨hcreated, hdone, hpending⟩ := series_balance calls htallied
  rw [hrows.2.1] at hdone
  rw [hrows.2.2] at hpending
  exact ⟨(hcreated .assigned).trans hrows.1, hdone, hpending⟩

end Service

end TodoLedger
