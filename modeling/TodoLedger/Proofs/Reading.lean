import Mathlib.Data.List.Forall2
import TodoLedger.Database.Query
import TodoLedger.Proofs.Lifecycle

/-!
# Reading the rows of to-dos

* `TodoRow.Shows`: a row is written as a to-do says, cell by cell. **A row is read as the to-do that
  it shows, and as no other** (`TodoRow.read_eq_ok_iff`).
* What is asked of the cells of a row is what the to-do answers: whose it is, what it is on, whether
  it is pending (`TodoRow.Shows.belongsTo`, `points`, `isPending`, `passes`). So lists of rows and
  of the to-dos that they show can be filtered alike (`forall₂_filter`, `map_eq_of_shows`).
* `TodoRow.Stamped`: the times in a row are seconds that some clock showed. **After all calls these
  are the times that the calls were told** (`stamped_after`).
* `Database.records` are all to-dos in the order of their rows. **After all calls they can be read**
  (`exists_records_after`).
-/

namespace TodoLedger

open Ledger (Op Run Stepped Ran)

variable {row : TodoRow} {todo : Todo}

/-! ### Rows and the to-dos that they show -/

/-- The cells that may hold an id are readable if they were written with ids. -/
theorem mapM_id?_option_eq_ok_iff {cell? : Option Cell} {id? : Option UInt64} :
    cell?.mapM Cell.id? = .ok id? ↔ cell? = id?.map .ofId := by
  cases cell? with
  | none => cases id? <;> simp [pure, Except.pure]
  | some cell =>
    rw [Option.mapM_some, ← bind_pure_comp, bind_eq_ok_iff]
    cases id? <;> simp [Cell.id?_eq_ok_iff, pure, Except.pure]

/-- The row is written as the to-do says: ids with the same bits, choices by their names and codes,
and times as seconds. -/
structure TodoRow.Shows (row : TodoRow) (todo : Todo) : Prop where
  id : idOfRow row.id = todo.id
  userId : row.userId = .ofId todo.userId
  authorId : row.authorId = .ofId todo.authorId
  projectId : row.projectId = .ofId todo.projectId
  targetKind : row.targetKind = todo.target.kind.name
  targetId : row.targetId = todo.target.targetId.map .ofId
  commitId : row.commitId = todo.target.commitId
  noteId : row.noteId = todo.noteId.map .ofId
  action : row.action = .integer todo.action.code
  state : row.state = todo.state.name
  resolution : row.resolution = todo.resolution.map Resolution.name
  createdAt : ∃ second, row.createdAt = .integer second ∧
    todo.createdAt = .ofSeconds second.toInt
  updatedAt : ∃ second, row.updatedAt = .integer second ∧
    todo.updatedAt = .ofSeconds second.toInt

/-- A row that is read shows the to-do. -/
theorem TodoRow.shows_of_read (h : row.read = .ok todo) : row.Shows todo := by
  rw [read] at h
  split at h
  · next kind hkind =>
    obtain ⟨code, hcode, h⟩ := bind_eq_ok_iff.1 h
    split at h
    · next action haction =>
      split at h
      · next state hstate =>
        extract_lets finish at h
        have hfinish : ∀ resolution : Option Resolution,
            row.resolution = resolution.map Resolution.name → finish resolution = .ok todo →
              row.Shows todo := by
          intro resolution hresolution h
          simp only [finish, bind_eq_ok_iff] at h
          obtain ⟨user, huser, author, hauthor, project, hproject, target, htarget, note, hnote,
            created, hcreated, updated, hupdated, h⟩ := h
          cases h
          exact {
            id := rfl
            userId := Cell.id?_eq_ok_iff.1 huser
            authorId := Cell.id?_eq_ok_iff.1 hauthor
            projectId := Cell.id?_eq_ok_iff.1 hproject
            targetKind := TargetKind.name_of_ofName? hkind
            targetId := mapM_id?_option_eq_ok_iff.1 htarget
            commitId := rfl
            noteId := mapM_id?_option_eq_ok_iff.1 hnote
            action := by rw [Cell.eq_of_integer? hcode, Action.code_of_ofCode? haction]
            state := TodoState.name_of_ofName? hstate
            resolution := hresolution
            createdAt := ⟨created, Cell.eq_of_integer? hcreated, rfl⟩
            updatedAt := ⟨updated, Cell.eq_of_integer? hupdated, rfl⟩ }
        split at h
        · next hnone => exact hfinish none hnone h
        · next name hname =>
          split at h
          · next resolution hresolution =>
            refine hfinish (some resolution) ?_ h
            rw [hname, Resolution.name_of_ofName? hresolution, Option.map_some]
          · cases h
      · cases h
    · cases h
  · cases h

/-- A row that shows a to-do is read as that. -/
theorem TodoRow.Shows.read (h : row.Shows todo) : row.read = .ok todo := by
  obtain ⟨created, hcreated, hcreatedAt⟩ := h.createdAt
  obtain ⟨updated, hupdated, hupdatedAt⟩ := h.updatedAt
  have htarget := mapM_id?_option_eq_ok_iff.2 h.targetId
  have hnote := mapM_id?_option_eq_ok_iff.2 h.noteId
  have hresolution := h.resolution
  rw [TodoRow.read, h.id, h.userId, h.authorId, h.projectId, h.targetKind, h.commitId, h.action,
    h.state, htarget, hnote, hcreated, hupdated]
  have hbind {α β : Type} (a : α) (f : α → Except Cause β) : (Except.ok a >>= f) = f a := rfl
  simp only [TargetKind.ofName?_name, TodoState.ofName?_name, Cell.integer?_integer, Cell.id?_ofId,
    hbind, Action.ofCode?_code]
  cases htodo : todo.resolution with
  | none =>
    rw [hresolution, htodo]
    change Except.ok { todo with
      resolution := none
      createdAt := .ofSeconds created.toInt
      updatedAt := .ofSeconds updated.toInt } = _
    rw [← hcreatedAt, ← hupdatedAt, ← htodo]
  | some resolution =>
    rw [hresolution, htodo]
    simp only [Option.map_some, Resolution.ofName?_name]
    change Except.ok { todo with
      resolution := some resolution
      createdAt := .ofSeconds created.toInt
      updatedAt := .ofSeconds updated.toInt } = _
    rw [← hcreatedAt, ← hupdatedAt, ← htodo]

/-- **A row is read as the to-do that it shows, and as no other.** -/
theorem TodoRow.read_eq_ok_iff : row.read = .ok todo ↔ row.Shows todo :=
  ⟨shows_of_read, Shows.read⟩

/-! ### Questions about a row -/

/-- Ids that may be absent are kept apart in cells. -/
theorem map_ofId_inj {a b : Option UInt64} : a.map Cell.ofId = b.map Cell.ofId ↔ a = b := by
  cases a <;> cases b <;> simp [Cell.ofId_inj]

/-- True when the to-do has all that the filter asks for. -/
def TodoFilter.accepts (filter : TodoFilter) (todo : Todo) : Bool :=
  filter.state.all (todo.state = ·) && filter.action.all (todo.action = ·) &&
    filter.projectId.all (todo.projectId = ·) && filter.kind.all (todo.target.kind = ·)

namespace TodoRow.Shows

/-- A row belongs to the user of its to-do. -/
theorem belongsTo (h : row.Shows todo) (user : UserId) :
    row.belongsTo user = decide (todo.userId = user) := by
  rw [TodoRow.belongsTo, h.userId, decide_eq_decide, Cell.ofId_inj]

/-- A row is pending if its to-do is. -/
theorem isPending (h : row.Shows todo) : row.isPending = todo.isPending := by
  rw [TodoRow.isPending, Todo.isPending, h.state, decide_eq_decide]
  exact ⟨TodoState.name_injective, congrArg _⟩

/-- A row is done if its to-do is. -/
theorem isDone (h : row.Shows todo) : row.isDone = decide (todo.state = .done) := by
  rw [TodoRow.isDone, h.state, decide_eq_decide]
  exact ⟨TodoState.name_injective, congrArg _⟩

/-- A row has the action of its to-do. -/
theorem hasAction (h : row.Shows todo) (action : Action) :
    decide (row.action = .integer action.code) = decide (todo.action = action) := by
  rw [h.action, decide_eq_decide, Cell.integer.injEq]
  exact ⟨Action.code_injective, congrArg _⟩

/-- **A row is on the target of its to-do, and on no other.** -/
theorem points (h : row.Shows todo) (target : TargetRef) :
    row.points target = decide (todo.target = target) := by
  obtain ⟨kind, targetId, commitId⟩ := target
  have hkind : row.targetKind = kind.name ↔ todo.target.kind = kind := by
    rw [h.targetKind]
    exact ⟨TargetKind.name_injective, congrArg _⟩
  rw [TodoRow.points, ← Bool.decide_and, ← Bool.decide_and, decide_eq_decide, h.targetId,
    map_ofId_inj, h.commitId, hkind, and_assoc]
  obtain ⟨id, user, author, project, ⟨kind', targetId', commitId'⟩⟩ := todo
  rw [TargetRef.mk.injEq]

/-- A row passes the filter that accepts its to-do. -/
theorem passes (h : row.Shows todo) (filter : TodoFilter) :
    filter.passes row = filter.accepts todo := by
  have hstate (state : TodoState) :
      decide (row.state = state.name) = decide (todo.state = state) := by
    rw [h.state, decide_eq_decide]
    exact ⟨TodoState.name_injective, congrArg _⟩
  have hproject (project : ProjectId) :
      decide (row.projectId = .ofId project) = decide (todo.projectId = project) := by
    rw [h.projectId, decide_eq_decide, Cell.ofId_inj]
  have hkind (kind : TargetKind) :
      decide (row.targetKind = kind.name) = decide (todo.target.kind = kind) := by
    rw [h.targetKind, decide_eq_decide]
    exact ⟨TargetKind.name_injective, congrArg _⟩
  simp only [TodoFilter.passes, TodoFilter.accepts, hstate, h.hasAction, hproject, hkind]

end TodoRow.Shows

/-! ### Lists of rows -/

section Lists

variable {rows : List TodoRow} {todos : List Todo}

/-- Rows are read as the to-dos that they show. -/
theorem mapM_read_eq_ok_iff :
    rows.mapM TodoRow.read = .ok todos ↔ List.Forall₂ TodoRow.Shows rows todos := by
  induction rows generalizing todos with
  | nil =>
    rw [List.mapM_nil, List.forall₂_nil_left_iff]
    constructor
    · rintro ⟨⟩
      rfl
    · rintro rfl
      rfl
  | cons row rest ih =>
    rw [List.mapM_cons, bind_eq_ok_iff, List.forall₂_cons_left_iff]
    constructor
    · rintro ⟨todo, htodo, h⟩
      obtain ⟨others, hothers, h⟩ := bind_eq_ok_iff.1 h
      cases h
      exact ⟨todo, others, TodoRow.read_eq_ok_iff.1 htodo, ih.1 hothers, rfl⟩
    · rintro ⟨todo, others, htodo, hothers, rfl⟩
      exact ⟨todo, htodo.read, bind_eq_ok_iff.2 ⟨others, ih.2 hothers, rfl⟩⟩

/-- A list is read as the to-dos that its rows show. -/
theorem readTodos_of_shows (step : Step) (h : List.Forall₂ TodoRow.Shows rows todos) :
    Database.readTodos step rows = .ok todos := by
  rw [Database.readTodos, mapM_read_eq_ok_iff.2 h]

variable (h : List.Forall₂ TodoRow.Shows rows todos)

include h

/-- What is the same for each row and its to-do is the same for the lists. -/
theorem map_eq_of_shows {α : Type} {f : TodoRow → α} {g : Todo → α}
    (hfg : ∀ row todo, row.Shows todo → f row = g todo) : rows.map f = todos.map g := by
  have hsame : List.Forall₂ (· = ·) (rows.map f) (todos.map g) := by
    rw [List.forall₂_map_left_iff, List.forall₂_map_right_iff]
    exact h.imp hfg
  rwa [List.forall₂_eq_eq_eq] at hsame

/-- Rows and to-dos of which the same is asked are selected alike. -/
theorem forall₂_filter {p : TodoRow → Bool} {q : Todo → Bool}
    (hpq : ∀ row todo, row.Shows todo → p row = q todo) :
    List.Forall₂ TodoRow.Shows (rows.filter p) (todos.filter q) :=
  List.rel_filter (fun row todo hshows => Bool.eq_iff_iff.1 (hpq row todo hshows)) h

/-- A row of some kind is there if such a to-do is. -/
theorem any_eq_of_shows {p : TodoRow → Bool} {q : Todo → Bool}
    (hpq : ∀ row todo, row.Shows todo → p row = q todo) : rows.any p = todos.any q := by
  have hsame := map_eq_of_shows h hpq
  calc rows.any p = (rows.map p).any id := by rw [List.any_map, Function.id_comp]
    _ = (todos.map q).any id := by rw [hsame]
    _ = todos.any q := by rw [List.any_map, Function.id_comp]

/-- There are as many rows of some kind as such to-dos. -/
theorem countP_eq_of_shows {p : TodoRow → Bool} {q : Todo → Bool}
    (hpq : ∀ row todo, row.Shows todo → p row = q todo) : rows.countP p = todos.countP q := by
  rw [List.countP_eq_length_filter, List.countP_eq_length_filter]
  exact (forall₂_filter h hpq).length_eq

/-- To-dos differ in their ids as their rows do. -/
theorem nodup_of_shows (hrows : (rows.map (·.id)).Nodup) : (todos.map (·.id)).Nodup := by
  have hids : rows.map (idOfRow ·.id) = todos.map (·.id) :=
    map_eq_of_shows h fun row todo h => h.id
  rw [← hids, ← Function.comp_def idOfRow, ← List.map_map]
  exact hrows.map fun a b hab => by rw [← rowId_idOfRow a, hab, rowId_idOfRow]

/-- Rows in another order show the to-dos in another order. -/
theorem exists_shows_of_perm {others : List TodoRow} (hperm : others.Perm rows) :
    ∃ sorted, List.Forall₂ TodoRow.Shows others sorted ∧ sorted.Perm todos :=
  List.perm_comp_forall₂ hperm h

end Lists

/-- A user has a pending to-do on the target or not. -/
theorem pendingExists_iff {db : Database} {records : List Todo}
    (hrecords : List.Forall₂ TodoRow.Shows db.todos records) (user : UserId) (target : TargetRef) :
    db.pendingExists user target = true ↔
      ∃ todo ∈ records, todo.userId = user ∧ todo.isPending = true ∧ todo.target = target := by
  have hany : db.pendingExists user target = records.any fun todo =>
      decide (todo.userId = user) && todo.isPending && decide (todo.target = target) :=
    any_eq_of_shows hrecords fun row todo h => by rw [h.belongsTo, h.isPending, h.points]
  rw [hany]
  simp [and_assoc]

/-! ### The times of rows -/

/-- The times in the row are seconds with a property. -/
structure TodoRow.Stamped (p : Int64 → Prop) (row : TodoRow) : Prop where
  created : ∃ second, row.createdAt = .integer second ∧ p second
  updated : ∃ second, row.updatedAt = .integer second ∧ p second

variable {p : Int64 → Prop} {now : Int64} {db : Database}

/-- An op leaves the time of a row's last change, or puts its own. -/
theorem TodoRow.Stamped.revise {op : Op} {row' : TodoRow} (hrow : row.Stamped p) (hnow : p now)
    (h : op.revise now row = some row') : row'.Stamped p := by
  rw [Op.revise] at h
  split at h
  · cases op with
    | upsert =>
      cases h
      exact hrow
    | resolveForTarget | resolveCollection | resolveAllForUser | restoreCollection =>
      cases h
      exact ⟨hrow.created, now, rfl, hnow⟩
    | purgeTarget => cases h
  · cases h
    exact hrow

/-- A step puts no time but its own. -/
theorem Ledger.Stepped.stamped {op : Op} {change : Ledger.Change} (h : Stepped now db op change)
    (hnow : p now) (hdb : ∀ row ∈ db.todos, row.Stamped p) :
    ∀ row ∈ change.database.todos, row.Stamped p := by
  intro row hrow
  rcases h.row_cases hrow with ⟨before, hbefore, hrevise⟩ | ⟨todo, id, -, -, -, rfl⟩
  · exact (hdb before hbefore).revise hnow hrevise
  · exact ⟨⟨now, rfl, hnow⟩, ⟨now, rfl, hnow⟩⟩

/-- Ops that run put no time but their own. -/
theorem Ledger.Ran.stamped {ops : List Op} {done : Run} (h : Ran now db ops done) (hnow : p now)
    (hdb : ∀ row ∈ db.todos, row.Stamped p) : ∀ row ∈ done.database.todos, row.Stamped p := by
  induction h with
  | nil => exact hdb
  | cons hstep _ ih => exact ih (hstep.stamped hnow hdb)

namespace Service

/-- The time that a call is told. -/
def Call.time? : Call → Option Int64
  | .createUser .. | .createProject .. | .setMember .. => none
  | .apply now _ | .handle _ _ now _ | .destroy _ _ now _ _ => some now

/-- A call hands its batch to the ledger with the time that it is told. -/
theorem Call.batch_cases (s : State) (call : Call) :
    (call.batch s).2 = [] ∨ call.time? = some (call.batch s).1 := by
  cases call with
  | createUser | createProject | setMember => exact .inl rfl
  | apply | handle => exact .inr rfl
  | destroy around settings now target removal =>
    rw [batch]
    obtain ⟨removed, world⟩ := removal.run.run around.world
    cases removed with
    | error => exact .inl rfl
    | ok => exact .inr rfl

/-- A call puts no time but its own. -/
theorem Call.stamped {s : State} (call : Call) (htime : ∀ now ∈ call.time?, p now)
    (hs : ∀ row ∈ s.database.todos, row.Stamped p) :
    ∀ row ∈ (call.perform s).database.todos, row.Stamped p := by
  rw [call.perform_todos]
  cases hrun : Ledger.run (call.batch s).1 (call.batch s).2 s.database with
  | error => exact hs
  | ok done =>
    have hran := Ledger.ran_of_run hrun
    rcases call.batch_cases s with hnone | hsome
    · rw [hnone] at hran
      cases hran
      exact hs
    · exact hran.stamped (htime _ hsome) hs

/-- **After all calls the times of rows are times that calls were told.** -/
theorem stamped_after {calls : List Call} (h : ∀ call ∈ calls, ∀ now ∈ call.time?, p now) :
    ∀ row ∈ (State.after calls).database.todos, row.Stamped p := by
  induction calls using List.reverseRecOn with
  | nil => exact fun row hrow => absurd hrow List.not_mem_nil
  | append_singleton calls call ih =>
    rw [List.forall_mem_append, List.forall_mem_singleton] at h
    rw [State.after_concat]
    exact call.stamped h.2 (ih h.1)

end Service

/-! ### All to-dos -/

/-- All to-dos in the order of their rows, or why one of them cannot be read. -/
def Database.records (db : Database) : Except Cause (List Todo) := db.todos.mapM TodoRow.read

/-- **A valid row with times that are seconds shows a to-do.** -/
theorem TodoRow.Valid.exists_shows (h : row.Valid db) (hstamped : row.Stamped fun _ => True) :
    ∃ todo, row.Shows todo := by
  obtain ⟨created, new, -, horigin⟩ := h.born
  obtain ⟨createdAt, hcreatedAt, -⟩ := hstamped.created
  obtain ⟨updatedAt, hupdatedAt, -⟩ := hstamped.updated
  have hshows (state : TodoState) (resolution : Option Resolution) (hstate : row.state = state.name)
      (hresolution : row.resolution = resolution.map Resolution.name) : ∃ todo, row.Shows todo := by
    refine ⟨{
      id := idOfRow row.id
      userId := new.userId
      authorId := new.authorId
      projectId := new.projectId
      target := new.target
      noteId := new.noteId
      action := new.action
      state, resolution
      createdAt := .ofSeconds createdAt.toInt
      updatedAt := .ofSeconds updatedAt.toInt }, ?_⟩
    exact {
      id := rfl
      userId := (congrArg TodoRow.userId horigin :)
      authorId := (congrArg TodoRow.authorId horigin :)
      projectId := (congrArg TodoRow.projectId horigin :)
      targetKind := (congrArg TodoRow.targetKind horigin :)
      targetId := (congrArg TodoRow.targetId horigin :)
      commitId := (congrArg TodoRow.commitId horigin :)
      noteId := (congrArg TodoRow.noteId horigin :)
      action := (congrArg TodoRow.action horigin :)
      state := hstate
      resolution := hresolution
      createdAt := ⟨createdAt, hcreatedAt, rfl⟩
      updatedAt := ⟨updatedAt, hupdatedAt, rfl⟩ }
  rcases h.lives with ⟨hstate, hresolution⟩ | ⟨hstate, resolution, hresolution⟩
  · exact hshows .pending none hstate hresolution
  · exact hshows .done (some resolution) hstate hresolution

/-- **After all calls the to-dos can be read.** -/
theorem exists_records_after (calls : List Service.Call) :
    ∃ records, (Service.State.after calls).database.records = .ok records := by
  have hwf := Service.wellFormed_after calls
  have hstamped : ∀ row ∈ (Service.State.after calls).database.todos, row.Stamped fun _ => True :=
    Service.stamped_after fun _ _ _ _ => trivial
  have hshows : ∀ rows : List TodoRow, (∀ row ∈ rows, ∃ todo, row.Shows todo) →
      ∃ todos, List.Forall₂ TodoRow.Shows rows todos := by
    intro rows hrows
    induction rows with
    | nil => exact ⟨[], .nil⟩
    | cons row rest ih =>
      rw [List.forall_mem_cons] at hrows
      obtain ⟨todo, htodo⟩ := hrows.1
      obtain ⟨others, hothers⟩ := ih hrows.2
      exact ⟨todo :: others, .cons htodo hothers⟩
  obtain ⟨records, hrecords⟩ := hshows _ fun row hrow =>
    (hwf.todoRows row hrow).exists_shows (hstamped row hrow)
  exact ⟨records, mapM_read_eq_ok_iff.2 hrecords⟩

end TodoLedger
