import TodoLedger.Program.Run
import TodoLedger.Proofs.Counters
import TodoLedger.Proofs.Schema.Widening

/-!
# Opening a database

* `Snapshot.IsVersion schema snapshot`: the database has the stamp and the tables of a version.
* **A database of the first version, with any rows, can be migrated** (`Snapshot.exists_migrate`): it
  becomes one of the present version, and nothing but the cached numbers of to-dos changes
  (`Database.IsRecount`).
* `Program.Host.keeping` is a host with one place for a database. There the program stores what it
  opens, and leaves alone what it cannot open (`run_prepare`).
* **Opening migrates what is of the first version, keeps what is of the present one, and rejects all
  else** (`opening`).
-/

namespace TodoLedger

open Schema

/-! ### Databases of a version -/

/-- The database has the stamp and the tables of a schema. -/
structure Snapshot.IsVersion (schema : Versioned) (snapshot : Snapshot) : Prop where
  stamp : snapshot.stamp = stampOf schema.version
  valid : schema.validate snapshot.catalog = .ok ()

/-- No column is computed from others, as in all tables that a schema makes. -/
def Snapshot.IsPlain (snapshot : Snapshot) : Prop :=
  ∀ table ∈ snapshot.catalog, ∀ column ∈ table.columns, column.isComputed = false

instance (schema : Versioned) (snapshot : Snapshot) : Decidable (snapshot.IsVersion schema) :=
  decidable_of_iff (snapshot.stamp = stampOf schema.version ∧
    schema.validate snapshot.catalog = .ok ())
    ⟨fun h => ⟨h.1, h.2⟩, fun h => ⟨h.stamp, h.valid⟩⟩

instance (snapshot : Snapshot) : Decidable snapshot.IsPlain :=
  inferInstanceAs (Decidable (∀ table ∈ snapshot.catalog, ∀ column ∈ table.columns,
    column.isComputed = false))

/-- The tables of a version can be made, and are those of the version. They have no rows yet. -/
theorem exists_create :
    ∀ schema ∈ history, ∃ made, Snapshot.create schema = .ok made ∧ made.IsVersion schema ∧
      made.IsPlain ∧ made.content = .empty := by
  have hmade : ∀ schema ∈ history, (Snapshot.create schema).toOption.any fun made =>
      decide (made.IsVersion schema ∧ made.IsPlain ∧ made.content = .empty) := by
    decide +kernel
  intro schema hschema
  have hsome := hmade schema hschema
  cases hcreate : Snapshot.create schema with
  | error =>
    rw [hcreate] at hsome
    cases hsome
  | ok made =>
    rw [hcreate] at hsome
    exact ⟨made, rfl, of_decide_eq_true hsome⟩

/-! ### Migration -/

/-- True of a statement that gives users a column for a number of to-dos. -/
def addsCount (column : Column) : Sql.Statement → Bool
  | .addColumn table definition =>
    table = userTable.name && definition.name = column.name && definition.isPossible &&
      Sql.TableDefinition.liveColumn [] false definition = countLive column &&
      !definition.rules.any fun
        | .unique | .primaryKey _ _ => true
        | _ => false
  | _ => false

/-- The statements of the migration give users the two columns. -/
theorem addsCount_migration :
    ∀ column ∈ [pendingColumn, doneColumn],
      (Sql.Statement.ofText? ("ALTER TABLE user ADD COLUMN ".toList ++ column.sql)).any
        (addsCount column) = true := by
  decide +kernel

/-- **A statement of the migration adds its column**, unless the table has one of that name. -/
theorem exists_run?_migration {snapshot : Snapshot} {table : LiveTable} {column : Column}
    (hcolumn : column ∈ [pendingColumn, doneColumn])
    (htable : snapshot.catalog.table? userTable.name = some table)
    (hnew : Sql.isOneOf table.columnNames column.name = false) :
    ∃ value, snapshot.run? ("ALTER TABLE user ADD COLUMN ".toList ++ column.sql) =
      some (snapshot.addColumn table.name (countLive column) value) := by
  have hadds := addsCount_migration column hcolumn
  cases hparsed : Sql.Statement.ofText? ("ALTER TABLE user ADD COLUMN ".toList ++ column.sql) with
  | none =>
    rw [hparsed] at hadds
    cases hadds
  | some statement =>
    rw [hparsed, Option.any_some] at hadds
    cases statement with
    | createTable | createIndex | dropTable | dropIndex | renameColumn => cases hadds
    | addColumn name definition =>
      simp only [addsCount, Bool.and_eq_true, decide_eq_true_eq, Bool.not_eq_true'] at hadds
      obtain ⟨⟨⟨⟨rfl, hname⟩, hpossible⟩, hlive⟩, hnoKey⟩ := hadds
      have hwiden : snapshot.catalog.widen? userTable.name definition =
          some (snapshot.catalog.addColumn table.name (countLive column)) := by
        rw [Catalog.widen?, htable, Option.bind_eq_bind, Option.bind_some, hpossible, hname, hnew,
          hlive]
        have hmay : (true && !(definition.rules.any fun
            | .unique | .primaryKey _ _ => true
            | _ => false) && !false) = true := by
          rw [hnoKey]
          rfl
        exact if_pos hmay
      refine ⟨Snapshot.initialNumber definition, ?_⟩
      rw [Snapshot.run?, hparsed, Option.bind_some, Snapshot.execute?, Catalog.execute?, hwiden]
      simp only [Option.bind_eq_bind, Option.bind_some, htable, hlive]
      rfl

/-- Counting again forgets what new columns hold. -/
theorem recountAll_addColumn (snapshot : Snapshot) (table : String) (column : LiveColumn)
    (value : Int64) :
    Snapshot.recountAll (snapshot.addColumn table column value).content =
      Snapshot.recountAll snapshot.content := by
  have husers {f : UserRow → UserRow} (hf : ∀ row, Ledger.recount snapshot.content (f row) =
      Ledger.recount snapshot.content row) :
      Snapshot.recountAll { snapshot.content with users := snapshot.content.users.map f } =
        Snapshot.recountAll snapshot.content := by
    have hcomp : Ledger.recount snapshot.content ∘ f = Ledger.recount snapshot.content := funext hf
    simp only [Snapshot.recountAll, List.map_map]
    rw [← hcomp]
    rfl
  rw [Snapshot.addColumn]
  dsimp only
  split
  · rfl
  · split
    · exact husers fun _ => rfl
    · split
      · exact husers fun _ => rfl
      · rfl

/-- The users of the first version have neither of the two columns. -/
theorem isOneOf_columnNames {table : LiveTable} {column : Column}
    (hcolumns : userTable.columnsFlaw? table.shownColumns = none)
    (hplain : ∀ column ∈ table.columns, column.isComputed = false)
    (hcolumn : column ∈ [pendingColumn, doneColumn]) :
    Sql.isOneOf table.columnNames column.name = false := by
  have hshown : table.shownColumns = table.columns := by
    rw [LiveTable.shownColumns, List.filter_eq_self]
    intro column hmem
    rw [hplain column hmem]
    rfl
  have hnames : table.columnNames = userTable.columns.map (·.name) := by
    rw [LiveTable.columnNames, ← hshown]
    exact map_name_of_columnsFlaw? (by decide) hcolumns
  have hnone : ∀ column ∈ [pendingColumn, doneColumn],
      Sql.isOneOf (userTable.columns.map (·.name)) column.name = false := by
    decide +kernel
  rw [hnames]
  exact hnone column hcolumn

/-- The two columns have different names. -/
theorem sameName_countColumns : Sql.sameName pendingColumn.name doneColumn.name = false := by
  decide +kernel

/-- If all statements of the migration are carried out, it succeeds. -/
theorem Snapshot.migrate_of_run {snapshot widened : Snapshot}
    (h : migration.foldlM run? snapshot = some widened) :
    snapshot.migrate = .ok { widened with
      stamp := stampOf latest.version
      content := recountAll widened.content } := by
  delta migrate
  generalize migration.foldlM run? snapshot = done at h
  subst h
  rfl

/-- **A database of the first version can be migrated.** It becomes one of the present version, and
all users are counted again. -/
theorem Snapshot.exists_migrate {snapshot : Snapshot} (h : snapshot.IsVersion first)
    (hplain : snapshot.IsPlain) :
    ∃ migrated, snapshot.migrate = .ok migrated ∧ migrated.IsVersion latest ∧
      migrated.content = recountAll snapshot.content := by
  obtain ⟨table, htable, hcolumns⟩ := exists_users_of_first h.valid
  have hshown := hplain table (List.mem_of_find?_eq_some htable)
  obtain ⟨pending, hpending⟩ := exists_run?_migration List.mem_cons_self htable
    (isOneOf_columnNames hcolumns hshown List.mem_cons_self)
  have hwidened : (snapshot.addColumn table.name (countLive pendingColumn) pending).catalog.table?
      userTable.name = some { table with columns := table.columns ++ [countLive pendingColumn] } :=
    table?_addColumn_self _ htable
  have hnew : Sql.isOneOf ({ table with
      columns := table.columns ++ [countLive pendingColumn] } : LiveTable).columnNames
      doneColumn.name = false := by
    have hnone := isOneOf_columnNames hcolumns hshown (List.mem_cons_of_mem _ List.mem_cons_self)
    rw [Sql.isOneOf, LiveTable.columnNames] at hnone ⊢
    rw [List.map_append, List.any_append, hnone, Bool.false_or]
    simpa [countLive] using sameName_countColumns
  obtain ⟨done, hdone⟩ :=
    exists_run?_migration (List.mem_cons_of_mem _ List.mem_cons_self) hwidened hnew
  let widened := (snapshot.addColumn table.name (countLive pendingColumn) pending).addColumn
    table.name (countLive doneColumn) done
  have hrun : migration.foldlM run? snapshot = some widened := by
    simp only [migration, List.map_cons, List.map_nil, List.foldlM_cons, List.foldlM_nil, hpending,
      hdone, Option.bind_eq_bind, Option.bind_some, Option.pure_def, widened]
  have hmigrate := migrate_of_run hrun
  have hcontent : recountAll widened.content = recountAll snapshot.content := by
    rw [recountAll_addColumn, recountAll_addColumn]
  have hvalid : latest.validate widened.catalog = .ok () := validate_latest_of_first h.valid htable
  exact ⟨_, hmigrate, ⟨rfl, hvalid⟩, hcontent⟩

/-! ### Loading -/

namespace Snapshot

variable {snapshot : Snapshot}

/-- What is opened of a known version. -/
theorem load_of_isVersion {schema : Versioned} (h : snapshot.IsVersion schema)
    (hversion : versionOf (stampOf schema.version) = .ok schema.version)
    (hfind : history.find? (·.version = schema.version) = some schema) :
    snapshot.load = if schema.version < latest.version then (do
        let migrated ← snapshot.migrate
        latest.validate migrated.catalog
        return migrated)
      else .ok snapshot := by
  rw [← h.stamp] at hversion
  delta load
  rw [hversion]
  simp only [bind, Except.bind, pure, Except.pure, hfind, h.valid]

/-- **A database of the present version is opened as it is.** -/
theorem load_of_latest (h : snapshot.IsVersion latest) : snapshot.load = .ok snapshot := by
  have hversion : versionOf (stampOf latest.version) = .ok latest.version := by decide
  have hfind : history.find? (·.version = latest.version) = some latest := by decide
  rw [load_of_isVersion h hversion hfind, if_neg (Nat.lt_irrefl _)]

/-- **A database of the first version is opened as one of the present version**, in which all users
were counted again. -/
theorem exists_load_of_first (h : snapshot.IsVersion first) (hplain : snapshot.IsPlain) :
    ∃ migrated, snapshot.load = .ok migrated ∧ migrated.IsVersion latest ∧
      migrated.content = recountAll snapshot.content := by
  obtain ⟨migrated, hmigrate, hlatest, hcontent⟩ := exists_migrate h hplain
  have hversion : versionOf (stampOf first.version) = .ok first.version := by decide
  have hfind : history.find? (·.version = first.version) = some first := by decide
  have holder : first.version < latest.version := by decide
  have hload : snapshot.load = .ok migrated := by
    rw [load_of_isVersion h hversion hfind, if_pos holder, hmigrate]
    simp only [bind, Except.bind, pure, Except.pure, hlatest.valid]
  exact ⟨migrated, hload, hlatest, hcontent⟩

/-- What a stamp says of the version, it says in full. -/
theorem eq_add_of_versionOf {stamp : Int} {version : Nat} (h : versionOf stamp = .ok version) :
    stamp = stampOffset + version := by
  rw [versionOf] at h
  split at h
  · cases h
  · cases h
    omega

/-- **A database with the stamp of no version is rejected.** -/
theorem exists_load_error (hstamp : ∀ schema ∈ history, snapshot.stamp ≠ stampOf schema.version) :
    ∃ fault, snapshot.load = .error fault := by
  cases hversion : versionOf snapshot.stamp with
  | error fault =>
    refine ⟨fault, ?_⟩
    delta load
    rw [hversion]
    simp only [bind, Except.bind]
  | ok version =>
    have hnone : history.find? (·.version = version) = none := by
      rw [List.find?_eq_none]
      intro schema hschema hsame
      have hstamps : ∀ schema ∈ history, stampOf schema.version = stampOffset + schema.version := by
        decide
      refine hstamp schema hschema ?_
      rw [eq_add_of_versionOf hversion, hstamps schema hschema, of_decide_eq_true hsame]
    refine ⟨.stated ("Unknown to-do database version " ++ toString version), ?_⟩
    delta load
    rw [hversion]
    simp only [bind, Except.bind, hnone, throw, throwThe, MonadExceptOf.throw]

end Snapshot

/-! ### Counting again -/

/-- What is different after the to-dos of every user were counted again: only the cached numbers,
which are then those of the rows. -/
structure Database.IsRecount (before after : Database) : Prop where
  projects : after.projects = before.projects
  members : after.members = before.members
  todos : after.todos = before.todos
  users : after.users.map (fun row => (row.id, row.handle, row.admin)) =
    before.users.map (fun row => (row.id, row.handle, row.admin))
  pending : ∀ row ∈ after.users, row.pending = Int64.ofNat (before.todos.countP fun todo =>
    todo.userId = .integer row.id && todo.state = "pending")
  done : ∀ row ∈ after.users, row.done = Int64.ofNat (before.todos.countP fun todo =>
    todo.userId = .integer row.id && todo.state = "done")
  agrees : ∀ id user counts, after.user? id = some user → after.countTodos id = .ok counts →
    counts = ⟨user.pendingCount, user.doneCount⟩

/-- **Counting again changes nothing but the cached numbers**, also where users have no rows. -/
theorem isRecount_recountAll (db : Database) : db.IsRecount (Snapshot.recountAll db) where
  projects := rfl
  members := rfl
  todos := rfl
  users := by
    rw [Snapshot.recountAll, List.map_map]
    rfl
  pending := by
    intro row hrow
    obtain ⟨before, _, rfl⟩ := List.mem_map.1 hrow
    rfl
  done := by
    intro row hrow
    obtain ⟨before, _, rfl⟩ := List.mem_map.1 hrow
    rfl
  agrees := by
    intro id user counts huser hcounts
    obtain ⟨row, hfound, rfl⟩ := Option.map_eq_some_iff.1 huser
    have hid := List.find?_some hfound
    rw [decide_eq_true_eq] at hid
    obtain ⟨before, _, rfl⟩ := List.mem_map.1 (List.mem_of_find?_eq_some hfound)
    rw [Database.countTodos] at hcounts
    split at hcounts
    · cases hcounts
    · cases hcounts
      rw [← hid]
      rfl

/-! ### Opening at a path -/

namespace Program

/-- A host with one place for a database, which all paths lead to. -/
def Host.keeping (outside : Host (StateM Stored)) : Host (StateM Stored) :=
  { outside with
    exists? := fun _ => do return (← get) ≠ .missing
    loadDatabase := fun _ => get
    saveDatabase := fun _ snapshot => set (Stored.holds snapshot) }

variable (outside : Host (StateM Stored)) {path : String}

/-- In that place a database is found as it is. -/
theorem run_openDatabase (stored : Stored) :
    (openDatabase outside.keeping path (.file path .creating)).run.run stored =
      (stored.start.mapError .fault, stored) := by
  cases stored with
  | missing => rfl
  | closed => rfl
  | foreign => rfl
  | holds snapshot => rfl

/-- **What is opened is stored, and what cannot be opened is left alone.** -/
theorem run_prepare (hpath : Location.ofPath? path = some (.file path .creating))
    (stored : Stored) :
    (prepare outside.keeping path).run.run stored = match stored.start with
      | .ok snapshot => (.ok (.file path .creating, snapshot), .holds snapshot)
      | .error fault => (.error (.fault fault), stored) := by
  rw [prepare, hpath]
  dsimp only
  rw [ExceptT.run_bind, StateT.run_bind, run_openDatabase]
  cases hstart : stored.start with
  | error fault => rfl
  | ok snapshot => rfl

/-- **Opening migrates what is of the first version, keeps what is of the present one, and rejects
all else.** A database of the first version, as it is made and with any rows, is stored as one of
the present version in which all users were counted again. A new database is of the present version,
and stays so in every history. -/
theorem opening (hpath : Location.ofPath? path = some (.file path .creating)) :
    let opened (stored : Stored) := (prepare outside.keeping path).run.run stored
    let location : Location := .file path .creating
    (∃ made, Snapshot.create first = .ok made ∧ ∀ content,
      ({ made with content } : Snapshot).IsVersion first ∧
        ({ made with content } : Snapshot).IsPlain) ∧
    (∀ snapshot : Snapshot, snapshot.IsVersion first → snapshot.IsPlain →
      ∃ migrated, opened (.holds snapshot) = (.ok (location, migrated), .holds migrated) ∧
        migrated.IsVersion latest ∧ snapshot.content.IsRecount migrated.content) ∧
    (∀ snapshot : Snapshot, snapshot.IsVersion latest →
      opened (.holds snapshot) = (.ok (location, snapshot), .holds snapshot)) ∧
    (∃ fresh, opened .missing = (.ok (location, fresh), .holds fresh) ∧ fresh.content = .empty ∧
      ∀ calls, ({ fresh with
        content := (Service.State.after calls).database } : Snapshot).IsVersion latest) ∧
    (∀ snapshot : Snapshot, (∀ schema ∈ history, snapshot.stamp ≠ stampOf schema.version) →
      ∃ failure, opened (.holds snapshot) = (.error failure, .holds snapshot)) := by
  intro opened location
  have hopened {stored : Stored} {snapshot : Snapshot} (hstart : stored.start = .ok snapshot) :
      opened stored = (.ok (location, snapshot), .holds snapshot) := by
    change (prepare outside.keeping path).run.run stored = _
    rw [run_prepare outside hpath, hstart]
  have hstart (snapshot : Snapshot) : (Stored.holds snapshot).start = snapshot.load := rfl
  refine ⟨?_, ?_, ?_, ?_, ?_⟩
  · obtain ⟨made, hmade, hversion, hplain, _⟩ := exists_create first List.mem_cons_self
    exact ⟨made, hmade, fun content => ⟨⟨hversion.stamp, hversion.valid⟩, hplain⟩⟩
  · intro snapshot hfirst hplain
    obtain ⟨migrated, hload, hlatest, hcontent⟩ := Snapshot.exists_load_of_first hfirst hplain
    refine ⟨migrated, hopened ((hstart snapshot).trans hload), hlatest, ?_⟩
    rw [hcontent]
    exact isRecount_recountAll snapshot.content
  · intro snapshot hlatest
    exact hopened ((hstart snapshot).trans (Snapshot.load_of_latest hlatest))
  · obtain ⟨fresh, hfresh, hversion, _, hempty⟩ :=
      exists_create latest (List.mem_cons_of_mem _ List.mem_cons_self)
    have hmissing : Stored.missing.start = .ok fresh := by
      rw [← hfresh]
      rfl
    exact ⟨fresh, hopened hmissing, hempty, fun calls => ⟨hversion.stamp, hversion.valid⟩⟩
  · intro snapshot hstamp
    obtain ⟨fault, hload⟩ := Snapshot.exists_load_error hstamp
    refine ⟨.fault fault, ?_⟩
    change (prepare outside.keeping path).run.run (.holds snapshot) = _
    rw [run_prepare outside hpath, hstart, hload]

/-- Two pending to-dos and a done one are counted for the one user when a database of the first
version is opened. -/
theorem opening_todosDb :
    let outside : Host (StateM Stored) :=
      { directory := "/"
        now := pure 7
        isDirectory := fun _ => pure false
        exists? := fun _ => pure true
        readText? := fun _ => pure none
        loadDatabase := fun _ => pure .missing
        saveDatabase := fun _ _ => pure () }
    let row (id : Int64) (state : TodoState) : TodoRow :=
      ⟨id, .integer 1, .integer 1, .integer 1, "issue", some (.integer id), none, none, .integer 1,
        state.name, none, .integer 5, .integer 5⟩
    let content : Database :=
      { users := [⟨1, "alice", true, 0, 0⟩]
        projects := [⟨1, "engine", "public", .integer 0⟩]
        todos := [row 1 .pending, row 2 .done, row 3 .pending] }
    Location.ofPath? "todos.db" = some (.file "todos.db" .creating) ∧
      ∃ made migrated, Snapshot.create first = .ok made ∧
        (prepare outside.keeping "todos.db").run.run (.holds { made with content }) =
          (.ok (.file "todos.db" .creating, migrated), .holds migrated) ∧
        migrated.content.todos = content.todos ∧
        ∀ user ∈ migrated.content.users, user = ⟨1, "alice", true, 2, 1⟩ := by
  intro outside row content
  have hpath : Location.ofPath? "todos.db" = some (.file "todos.db" .creating) := by
    decide +kernel
  obtain ⟨⟨made, hmade, hfirst⟩, hmigrates, _⟩ := opening outside hpath
  obtain ⟨migrated, hopened, _, hrecount⟩ :=
    hmigrates { made with content } (hfirst content).1 (hfirst content).2
  refine ⟨hpath, made, migrated, hmade, hopened, hrecount.todos, fun user huser => ?_⟩
  have hkept : (user.id, user.handle, user.admin) ∈ [((1 : Int64), "alice", true)] := by
    rw [show [((1 : Int64), "alice", true)] =
      content.users.map fun user => (user.id, user.handle, user.admin) from rfl, ← hrecount.users]
    exact List.mem_map_of_mem huser
  rw [List.mem_singleton, Prod.mk.injEq, Prod.mk.injEq] at hkept
  have hpending := hrecount.pending user huser
  have hdone := hrecount.done user huser
  cases user with
  | mk id handle admin pending done =>
    obtain ⟨rfl, rfl, rfl⟩ := hkept
    rw [UserRow.mk.injEq]
    exact ⟨rfl, rfl, rfl, hpending.trans rfl, hdone.trans rfl⟩

end Program

end TodoLedger
