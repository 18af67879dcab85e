import TodoLedger.Proofs.Ledger.Lookup
import TodoLedger.Proofs.Service.History

/-!
# The life of a to-do

* A `Deed` is an op that ran at a time, with the databases around it. `Service.State.deeds` lists
  those of all calls, in order; a batch that fails did nothing. Each deed found the to-dos that the
  one before it left (`Linked`).
* **What an op makes of a row is one of six things** (`Turns`, `Ledger.Stepped.turns`): rows are
  born pending, they become done or pending again, and a purge of their target deletes them.
* **So a row keeps its origin until a purge deletes it, and a done row stays as it is until it is
  restored** (`Linked.persists`).
* Both are true of all deeds of all calls (`Service.lifecycle`).
-/

namespace TodoLedger

open Ledger (Op Change Run Stepped)

/-! ### What an op makes of a row -/

/-- What an op makes of the row with an id, if there is one. -/
inductive Turns (now : Int64) (op : Op) (id : TodoId) : Option TodoRow → Option TodoRow → Prop
  /-- There is none, and none is put in. -/
  | absent : Turns now op id none none
  /-- The row of a new to-do is put in, pending and without a resolution. -/
  | born {row : TodoRow} {todo : NewTodo} (hop : op = .upsert todo)
    (hrow : row = TodoRow.ofNew (rowId id) now todo) (hpending : row.isPending = true)
    (hresolution : row.resolution = none) : Turns now op id none (some row)
  /-- A row that the op does not affect stays as it is. -/
  | kept {row : TodoRow} (hop : op.affects row = false) : Turns now op id (some row) (some row)
  /-- A pending row becomes done, in the way in which the op resolves. -/
  | resolved {row : TodoRow} {resolution : Resolution}
    (hop : Metrics.resolutionOf? op = some resolution) (hpending : row.isPending = true) :
    Turns now op id (some row) (some { row with
      state := TodoState.done.name
      resolution := some resolution.name
      updatedAt := .integer now })
  /-- A done row whose id is named becomes pending, and loses its resolution. -/
  | restored {row : TodoRow} {ids : List TodoId} {user : UserId}
    (hop : op = .restoreCollection ids user) (hnamed : id ∈ ids) (hdone : row.isDone = true) :
    Turns now op id (some row) (some { row with
      state := TodoState.pending.name
      resolution := none
      updatedAt := .integer now })
  /-- A row on the target of a purge is deleted. -/
  | deleted {row : TodoRow} {target : TargetRef} (hop : op = .purgeTarget target)
    (hpoints : row.points target = true) : Turns now op id (some row) none

variable {now : Int64} {op : Op} {ops : List Op} {id : TodoId} {row : TodoRow}
  {db first last : Database}

/-- Where a new to-do gets no row, what is found was absent or is kept. -/
theorem Turns.self (todo : NewTodo) (found : Option TodoRow) :
    Turns now (.upsert todo) id found found := by
  cases found with
  | none => exact .absent
  | some row => exact .kept rfl

/-- What becomes of a row in an op. -/
theorem Ledger.Op.turns_revise (now : Int64) (op : Op) (hid : row.id = rowId id) :
    Turns now op id (some row) (op.revise now row) := by
  rw [Op.revise]
  split
  · next haffects =>
    cases op with
    | upsert => cases haffects
    | resolveForTarget | resolveCollection | resolveAllForUser =>
      exact .resolved rfl (Op.isPending_of_affects rfl haffects)
    | restoreCollection ids user =>
      obtain ⟨hdone, hnamed⟩ := Bool.and_eq_true_iff.1 haffects
      rw [isNamed_iff, hid, idOfRow_rowId] at hnamed
      exact .restored rfl hnamed.2 hdone
    | purgeTarget target => exact .deleted rfl haffects
  · next hkept => exact .kept (Bool.eq_false_of_not_eq_true hkept)

/-- **What a step makes of a row is one of six things.** -/
theorem Ledger.Stepped.turns {change : Change} (h : Stepped now db op change)
    (hkeyed : Keyed (db.todos.map (·.id))) (id : TodoId) :
    Turns now op id (db.todoRow? id) (change.database.todoRow? id) := by
  rcases h.database_cases with ⟨_, hrevised⟩ | ⟨todo, rfl, hsame | ⟨free, hfree, hinserted⟩⟩
  · rw [hrevised, todoRow?_revised now op hkeyed]
    cases hfound : db.todoRow? id with
    | none => exact .absent
    | some row => exact op.turns_revise now (id_of_todoRow? hfound)
  · rw [hsame]
    exact .self todo _
  · have hnew : free ∉ db.todos.map (·.id) := not_mem_of_freeRowId? hfree
    rw [hinserted, todoRow?_append hnew]
    split
    · next hid =>
      subst hid
      have hnone : db.todoRow? (idOfRow free) = none := by
        rwa [todoRow?_eq_none_iff, rowId_idOfRow]
      change Turns now (.upsert todo) (idOfRow free) (db.todoRow? (idOfRow free)) _
      rw [hnone]
      exact .born rfl (by rw [rowId_idOfRow]) rfl rfl
    · exact .self todo _

/-! ### Deeds -/

/-- An op that ran at a time, and the databases before and after it. -/
structure Deed where
  now : Int64
  op : Op
  before : Database
  after : Database

namespace Deed

/-- The deed deletes the row. -/
def Deletes (deed : Deed) (row : TodoRow) : Prop :=
  ∃ target, deed.op = .purgeTarget target ∧ row.points target = true

/-- The deed restores the to-do with that id, if it is done. -/
def Restores (deed : Deed) (id : TodoId) : Prop :=
  ∃ ids user, deed.op = .restoreCollection ids user ∧ id ∈ ids

/-- Rows have an id of their own before and after the deed, which makes of each row one of the six
things that an op can make of it. -/
structure IsLawful (deed : Deed) : Prop where
  keyed_before : Keyed (deed.before.todos.map (·.id))
  keyed_after : Keyed (deed.after.todos.map (·.id))
  turns : ∀ id, Turns deed.now deed.op id (deed.before.todoRow? id) (deed.after.todoRow? id)

/-- **A row that a deed does not delete keeps its origin, and stays as it is if it is done and not
restored.** -/
theorem IsLawful.keeps {deed : Deed} (h : deed.IsLawful)
    (hfound : deed.before.todoRow? id = some row) (hkept : ¬deed.Deletes row) :
    ∃ row', deed.after.todoRow? id = some row' ∧ row'.origin = row.origin ∧
      (row.isDone = true → ¬deed.Restores id → row' = row) := by
  have hturns := h.turns id
  rw [hfound] at hturns
  generalize deed.after.todoRow? id = found at hturns
  cases hturns with
  | kept => exact ⟨row, rfl, rfl, fun _ _ => rfl⟩
  | resolved _ hpending =>
    refine ⟨_, rfl, rfl, fun hdone _ => ?_⟩
    rw [isDone_eq_false_of_isPending hpending] at hdone
    cases hdone
  | @restored _ ids user hop hnamed =>
    exact ⟨_, rfl, rfl, fun _ hrestores => absurd ⟨ids, user, hop, hnamed⟩ hrestores⟩
  | @deleted _ target hop hpoints => exact absurd ⟨target, hop, hpoints⟩ hkept

end Deed

/-- The deeds follow each other from the to-dos of one database to those of another. -/
inductive Linked : Database → List Deed → Database → Prop
  | nil {first last : Database} (h : last.todos = first.todos) : Linked first [] last
  | cons {first last : Database} {deed : Deed} {rest : List Deed}
    (h : deed.before.todos = first.todos) (hrest : Linked deed.after rest last) :
    Linked first (deed :: rest) last

namespace Linked

variable {deeds later : List Deed}

/-- Deeds may follow deeds. -/
theorem append {between : Database} (h : Linked first deeds between)
    (hlater : Linked between later last) : Linked first (deeds ++ later) last := by
  induction h with
  | nil hsame =>
    cases hlater with
    | nil h => exact .nil (h.trans hsame)
    | cons h hrest => exact .cons (h.trans hsame) hrest
  | cons h _ ih => exact .cons h (ih hlater)

/-- **A row keeps its origin until a deed deletes it, and a done row stays as it is until it is
restored.** -/
theorem persists (h : Linked first deeds last) (hlawful : ∀ deed ∈ deeds, deed.IsLawful)
    (hfound : first.todoRow? id = some row) (hkept : ∀ deed ∈ deeds, ¬deed.Deletes row) :
    ∃ row', last.todoRow? id = some row' ∧ row'.origin = row.origin ∧
      (row.isDone = true → (∀ deed ∈ deeds, ¬deed.Restores id) → row' = row) := by
  induction h generalizing row with
  | nil hsame =>
    rw [Database.todoRow?, ← hsame] at hfound
    exact ⟨row, hfound, rfl, fun _ _ => rfl⟩
  | @cons first last deed rest hsame _ ih =>
    rw [List.forall_mem_cons] at hlawful hkept
    rw [Database.todoRow?, ← hsame] at hfound
    obtain ⟨next, hnext, horigin, hstays⟩ := hlawful.1.keeps hfound hkept.1
    have hkeptNext : ∀ other ∈ rest, ¬other.Deletes next := by
      rintro other hother ⟨target, hop, hpoints⟩
      rw [TodoRow.points_eq_of_origin_eq horigin] at hpoints
      exact hkept.2 other hother ⟨target, hop, hpoints⟩
    obtain ⟨row', hrow', horigin', hstays'⟩ := ih hlawful.2 hnext hkeptNext
    refine ⟨row', hrow', horigin'.trans horigin, fun hdone hrestores => ?_⟩
    rw [List.forall_mem_cons] at hrestores
    have hnextEq := hstays hdone hrestores.1
    rw [hstays' (hnextEq ▸ hdone) hrestores.2, hnextEq]

end Linked

/-! ### Batches -/

namespace Ledger

/-- The deeds of ops that run one after the other. -/
def deeds (now : Int64) : List Op → Database → Except Error (List Deed)
  | [], _ => .ok []
  | op :: rest, db => do
    let change ← step now op db
    let later ← deeds now rest change.database
    return ⟨now, op, db, change.database⟩ :: later

/-- Ops that run with success do so in linked, lawful deeds. -/
theorem deeds_of_run {done : Run} (hdb : WellFormed db) (h : run now ops db = .ok done) :
    ∃ list, deeds now ops db = .ok list ∧ Linked db list done.database ∧
      ∀ deed ∈ list, deed.IsLawful := by
  induction ops generalizing db done with
  | nil =>
    cases h
    exact ⟨[], rfl, .nil rfl, by simp⟩
  | cons op rest ih =>
    obtain ⟨change, hstep, h⟩ := bind_eq_ok_iff.1 h
    obtain ⟨after, hrest, h⟩ := bind_eq_ok_iff.1 h
    cases h
    have hstepped := stepped_of_step hstep
    have hchange := hdb.step hstepped
    obtain ⟨later, hlater, hlinked, hlawful⟩ := ih hchange hrest
    refine ⟨⟨now, op, db, change.database⟩ :: later, ?_, .cons rfl hlinked, ?_⟩
    · exact bind_eq_ok_iff.2 ⟨change, hstep, bind_eq_ok_iff.2 ⟨later, hlater, rfl⟩⟩
    · rw [List.forall_mem_cons]
      exact ⟨⟨hdb.todos, hchange.todos, hstepped.turns hdb.todos⟩, hlawful⟩

/-- Only ops that run with success have deeds. -/
theorem exists_run_of_deeds {list : List Deed} (h : deeds now ops db = .ok list) :
    ∃ done, run now ops db = .ok done := by
  induction ops generalizing db list with
  | nil => exact ⟨_, rfl⟩
  | cons op rest ih =>
    obtain ⟨change, hstep, h⟩ := bind_eq_ok_iff.1 h
    obtain ⟨later, hlater, _⟩ := bind_eq_ok_iff.1 h
    exact exists_run_cons hstep (ih hlater)

end Ledger

/-! ### Calls -/

namespace Service

/-- The batch that a call hands to the ledger, and when; no ops if it does not get so far. -/
def Call.batch (s : State) : Call → Int64 × List Op
  | .createUser .. | .createProject .. | .setMember .. => (0, [])
  | .apply now ops => (now, ops)
  | .handle around settings now event =>
    let gathered := (gather around.collaborators settings event s.database).run.run around.world
    (now, gathered.1.toOption.getD [])
  | .destroy around settings now target removal =>
    match removal.run.run around.world with
    | (.error _, _) => (now, [])
    | (.ok _, world) =>
      let gathered := (gather around.collaborators settings (.targetDestroyed target)
        s.database).run.run world
      (now, gathered.1.toOption.getD [])

/-- What a call does to the to-dos: nothing if its batch fails. -/
def Call.deeds (s : State) (call : Call) : List Deed :=
  (Ledger.deeds (call.batch s).1 (call.batch s).2 s.database).toOption.getD []

/-- What calls do to the to-dos, one after the other. -/
def State.deeds (s : State) : List Call → List Deed
  | [] => []
  | call :: rest => call.deeds s ++ (call.perform s).deeds rest

/-- The to-dos after the second phase of an event are those of its batch, if that succeeds. -/
theorem conclude_todos (now : Int64) (gathered : Except Error (List Op)) (s : State) :
    (conclude now gathered s).2.database.todos =
      match Ledger.run now (gathered.toOption.getD []) s.database with
      | .ok done => done.database.todos
      | .error _ => s.database.todos := by
  cases gathered with
  | error => rfl
  | ok ops =>
    change (conclude now (.ok ops) s).2.database.todos = match Ledger.run now ops s.database with
      | .ok done => done.database.todos
      | .error _ => s.database.todos
    rw [conclude, Ledger.apply]
    cases Ledger.run now ops s.database <;> rfl

/-- The to-dos after a call are those of its batch, if that succeeds. -/
theorem Call.perform_todos (s : State) (call : Call) :
    (call.perform s).database.todos =
      match Ledger.run (call.batch s).1 (call.batch s).2 s.database with
      | .ok done => done.database.todos
      | .error _ => s.database.todos := by
  cases call with
  | createUser | createProject | setMember => exact (perform_of_makesAccounts rfl s).1
  | apply now ops =>
    rw [perform, Ledger.apply, batch]
    cases Ledger.run now ops s.database <;> rfl
  | handle around settings now event =>
    rw [perform, run_handle]
    exact conclude_todos now _ s
  | destroy around settings now target removal =>
    rw [perform, run_destroy, batch]
    obtain ⟨removed, world⟩ := removal.run.run around.world
    cases removed with
    | error => rfl
    | ok => exact conclude_todos now _ s

/-- A call does linked, lawful deeds. -/
theorem Call.linked_deeds {s : State} (hdb : WellFormed s.database) (call : Call) :
    Linked s.database (call.deeds s) (call.perform s).database ∧
      ∀ deed ∈ call.deeds s, deed.IsLawful := by
  have htodos := call.perform_todos s
  rw [deeds]
  cases hrun : Ledger.run (call.batch s).1 (call.batch s).2 s.database with
  | error error =>
    rw [hrun] at htodos
    cases hdeeds : Ledger.deeds (call.batch s).1 (call.batch s).2 s.database with
    | error => exact ⟨.nil htodos, List.forall_mem_nil _⟩
    | ok list =>
      obtain ⟨done, hdone⟩ := Ledger.exists_run_of_deeds hdeeds
      rw [hrun] at hdone
      cases hdone
  | ok done =>
    rw [hrun] at htodos
    obtain ⟨list, hlist, hlinked, hlawful⟩ := Ledger.deeds_of_run hdb hrun
    rw [hlist]
    refine ⟨?_, hlawful⟩
    have hend := hlinked.append (.nil htodos)
    rwa [List.append_nil] at hend

/-- Calls do linked, lawful deeds. -/
theorem State.linked_deeds {s : State} (hdb : WellFormed s.database) (calls : List Call) :
    Linked s.database (s.deeds calls) (calls.foldl Call.perform s).database ∧
      ∀ deed ∈ s.deeds calls, deed.IsLawful := by
  induction calls generalizing s with
  | nil => exact ⟨.nil rfl, by simp [deeds]⟩
  | cons call rest ih =>
    obtain ⟨hlinked, hlawful⟩ := call.linked_deeds hdb
    obtain ⟨hrest, hrestLawful⟩ := ih (wellFormed_written hdb (call.written s))
    rw [deeds]
    refine ⟨hlinked.append hrest, ?_⟩
    rw [List.forall_mem_append]
    exact ⟨hlawful, hrestLawful⟩

/-- **The life of a to-do.** The deeds of all calls follow each other from the empty table to the
table that is left. Each of them makes of a row one of the six things that an op can make of it. And
through deeds that follow each other, a row that none of them deletes keeps its origin, and if it is
done and none of them restores it, it stays as it is. -/
theorem lifecycle (calls : List Call) :
    Linked .empty (State.initial.deeds calls) (State.after calls).database ∧
      (∀ deed ∈ State.initial.deeds calls, deed.IsLawful) ∧
      ∀ between, between <:+: State.initial.deeds calls → ∀ first last, Linked first between last →
        ∀ id row, first.todoRow? id = some row → (∀ deed ∈ between, ¬deed.Deletes row) →
          ∃ row', last.todoRow? id = some row' ∧ row'.origin = row.origin ∧
            (row.isDone = true → (∀ deed ∈ between, ¬deed.Restores id) → row' = row) := by
  obtain ⟨hlinked, hlawful⟩ := State.linked_deeds (s := .initial) .empty calls
  refine ⟨hlinked, hlawful, ?_⟩
  intro between hbetween first last hends id row hfound hkept
  exact hends.persists (fun deed hdeed => hlawful deed (hbetween.subset hdeed)) hfound hkept

/-- A to-do that became done with its target stays so when its user resolves it once more. -/
theorem lifecycle_resolved_twice :
    let target : TargetRef := .row .issue 5
    let calls : List Call :=
      [.createUser "ada" false, .createProject "engine" .everyone false,
        .apply 7 [.upsert ⟨1, 1, 1, target, none, .marked⟩],
        .apply 8 [.resolveForTarget target none none]]
    let again : Call := .apply 9 [.resolveCollection [1] 1 .apiDone]
    let row : TodoRow :=
      { TodoRow.ofNew 1 7 ⟨1, 1, 1, target, none, .marked⟩ with
        state := "done"
        resolution := some "system_done"
        updatedAt := .integer 8 }
    (again.deeds (State.after calls)).map (·.op) = [.resolveCollection [1] 1 .apiDone] ∧
      (State.after calls).database.todoRow? 1 = some row ∧
      (State.after (calls ++ [again])).database.todoRow? 1 = some row := by
  intro target calls again row
  have hops : (again.deeds (State.after calls)).map (·.op) =
      [.resolveCollection [1] 1 .apiDone] := by decide +kernel
  have hfound : (State.after calls).database.todoRow? 1 = some row := by decide +kernel
  have hop : ∀ deed ∈ again.deeds (State.after calls),
      deed.op = .resolveCollection [1] 1 .apiDone := by
    intro deed hdeed
    have hmem := List.mem_map_of_mem (f := Deed.op) hdeed
    rw [hops] at hmem
    exact List.mem_singleton.1 hmem
  have hinfix : again.deeds (State.after calls) <:+: State.initial.deeds (calls ++ [again]) := by
    simp only [calls, List.cons_append, List.nil_append, State.deeds, List.append_nil,
      ← List.append_assoc]
    exact (List.suffix_append _ _).isInfix
  have hlinked := (again.linked_deeds (wellFormed_after calls)).1
  rw [← State.after_concat] at hlinked
  obtain ⟨_, _, hpersists⟩ := lifecycle (calls ++ [again])
  have hkept : ∀ deed ∈ again.deeds (State.after calls), ¬deed.Deletes row := by
    rintro deed hdeed ⟨other, hpurge, _⟩
    rw [hop deed hdeed] at hpurge
    cases hpurge
  obtain ⟨row', hrow', _, hstays⟩ := hpersists _ hinfix _ _ hlinked 1 row hfound hkept
  have hsame : row' = row := hstays rfl fun deed hdeed => by
    rintro ⟨ids, user, hrestore, _⟩
    rw [hop deed hdeed] at hrestore
    cases hrestore
  rw [hsame] at hrow'
  exact ⟨hops, hfound, hrow'⟩

end Service

end TodoLedger
