import Mathlib.Data.List.Find
import TodoLedger.Schema.History

/-!
# Tables with more columns

* A catalog is valid for a schema if no table of the schema has a flaw in it
  (`validate_eq_ok_iff`), and a declared table has no flaw if the columns that are found under its
  name are the declared ones and its indices exist (`flaw?_eq_none_iff`).
* A table that gets a column is found with one column more, and all others as before
  (`table?_addColumn`).
* **A catalog that is valid for the first version is valid for the present one after users got the
  two columns for the numbers of their to-dos** (`validate_latest_of_first`).
-/

namespace TodoLedger.Schema

open Sql (sameName)

variable {catalog : Catalog} {name key : String} {column : LiveColumn}

/-! ### Valid catalogs -/

/-- A catalog is valid for a schema if no table has a flaw. -/
theorem validate_eq_ok_iff {schema : Versioned} :
    schema.validate catalog = .ok () ↔ ∀ table ∈ schema.tables, table.flaw? catalog = none := by
  rw [Versioned.validate, ← List.findSome?_eq_none_iff]
  cases schema.tables.findSome? (Table.flaw? · catalog) with
  | none => simp
  | some flaw => simp

/-- The columns that are shown under a name, of a table that was made or of one that is always
there. -/
def shownUnder (catalog : Catalog) (name : String) : List LiveColumn :=
  (((catalog ++ builtInTables : Catalog).table? name).map (·.shownColumns)).getD []

/-- The flaw of a table whose name is one is in the columns that are found, or in an index. -/
theorem flaw?_of_found {table : Table} {found : List LiveColumn}
    (h : table.foundColumns? catalog = some found) :
    table.flaw? catalog = (table.columnsFlaw? found).or (table.indexFlaw? catalog) := by
  delta Table.flaw?
  generalize table.foundColumns? catalog = columns at h
  subst h
  rfl

/-- A declared table has no flaw if the right columns are found, and all indices. -/
theorem flaw?_eq_none_iff {table : Table}
    (hname : Sql.tableOfRequest? table.columnsSql = some table.name) :
    table.flaw? catalog = none ↔
      table.columnsFlaw? (shownUnder catalog table.name) = none ∧
        table.indexFlaw? catalog = none := by
  have hfound : table.foundColumns? catalog = some (shownUnder catalog table.name) := by
    rw [Table.foundColumns?, hname]
    rfl
  rw [flaw?_of_found hfound, Option.or_eq_none_iff]

/-- The requests for the columns of our tables name these tables. -/
theorem tableOfRequest?_columnsSql :
    ∀ table ∈ [userTable, countingUserTable, projectTable, memberTable, todoTable],
      Sql.tableOfRequest? table.columnsSql = some table.name := by
  decide +kernel

/-! ### More columns -/

/-- A name that is the same as two others makes them the same. -/
theorem sameName_trans {a b c : String} (hab : sameName a b = true) (hbc : sameName b c = true) :
    sameName a c = true := by
  rw [sameName, decide_eq_true_eq] at hab hbc ⊢
  exact hab.trans hbc

/-- A table that is found has the name under which it was looked up. -/
theorem sameName_of_table? {table : LiveTable} (h : catalog.table? name = some table) :
    sameName table.name name = true := by
  rw [Catalog.table?] at h
  exact List.find?_some (p := fun t : LiveTable => sameName t.name name) h

/-- **After a table got a column, it is found with that column, and all others as before.** -/
theorem table?_addColumn (catalog : Catalog) (key name : String) (column : LiveColumn) :
    (catalog.addColumn key column).table? name = (catalog.table? name).map fun table =>
      if sameName table.name key then { table with columns := table.columns ++ [column] }
      else table := by
  rw [Catalog.table?, Catalog.addColumn, Catalog.modify, List.find?_map]
  have hnames : ((fun t : LiveTable => sameName t.name name) ∘ fun t : LiveTable =>
      if sameName t.name key then { t with columns := t.columns ++ [column] } else t) =
      fun t : LiveTable => sameName t.name name := by
    funext t
    rw [Function.comp_apply]
    split <;> rfl
  rw [hnames]
  rfl

/-- A table that got a column is found with that column. -/
theorem table?_addColumn_self {table : LiveTable} (column : LiveColumn)
    (h : catalog.table? name = some table) :
    (catalog.addColumn table.name column).table? name =
      some { table with columns := table.columns ++ [column] } := by
  rw [table?_addColumn, h, Option.map_some, if_pos (Sql.sameName_self _)]

/-- The tables of two catalogs are looked up in the first, and then in the second. -/
theorem table?_append (catalog others : Catalog) (name : String) :
    (catalog ++ others : Catalog).table? name = (catalog.table? name).or (others.table? name) :=
  List.find?_append

/-- A new column changes nothing under other names. -/
theorem shownUnder_addColumn_of_ne (h : sameName key name = false) :
    shownUnder (catalog.addColumn key column) name = shownUnder catalog name := by
  have htable : (catalog.addColumn key column).table? name = catalog.table? name := by
    rw [table?_addColumn]
    cases hfound : catalog.table? name with
    | none => rfl
    | some table =>
      have hother : ¬sameName table.name key = true := by
        intro hkey
        rw [Sql.sameName_comm] at hkey
        rw [sameName_trans hkey (sameName_of_table? hfound)] at h
        cases h
      rw [Option.map_some, if_neg hother]
  rw [shownUnder, shownUnder, table?_append, table?_append, htable]

/-- A new column that is not computed is shown behind the others. -/
theorem shownUnder_addColumn {table : LiveTable} (htable : catalog.table? name = some table)
    (hkey : sameName table.name key = true) (hcolumn : column.isComputed = false) :
    shownUnder (catalog.addColumn key column) name = shownUnder catalog name ++ [column] := by
  have hwidened := table?_addColumn catalog key name column
  rw [htable, Option.map_some, if_pos hkey] at hwidened
  rw [shownUnder, shownUnder, table?_append, table?_append, htable, hwidened]
  simp [LiveTable.shownColumns, List.filter_append, hcolumn]

/-- A new column changes no index. -/
theorem hasIndex_addColumn (catalog : Catalog) (key : String) (column : LiveColumn)
    (table index : String) :
    Table.hasIndex (catalog.addColumn key column) table index =
      Table.hasIndex catalog table index := by
  rw [Table.hasIndex, Catalog.addColumn, Catalog.modify, List.any_map]
  refine List.any_congr rfl fun t => ?_
  rw [Function.comp_apply]
  split <;> rfl

/-- With a new column no index is missed that was not missed before. -/
theorem indexFlaw?_addColumn (table : Table) :
    table.indexFlaw? (catalog.addColumn key column) = table.indexFlaw? catalog := by
  simp only [Table.indexFlaw?, hasIndex_addColumn]

/-- A table stays without a flaw when a table of another name gets a column. -/
theorem flaw?_addColumn_of_ne {table : Table}
    (hname : Sql.tableOfRequest? table.columnsSql = some table.name)
    (hother : sameName key table.name = false) (h : table.flaw? catalog = none) :
    table.flaw? (catalog.addColumn key column) = none := by
  rw [flaw?_eq_none_iff hname] at h ⊢
  rw [shownUnder_addColumn_of_ne hother, indexFlaw?_addColumn]
  exact h

/-! ### Columns that are as declared -/

/-- Columns that are found for a table that has some are the declared ones if each is. -/
theorem columnsFlaw?_eq_none_iff {table : Table} {found : List LiveColumn}
    (hcolumns : table.columns ≠ []) :
    table.columnsFlaw? found = none ↔ found.length = table.columns.length ∧
      ∀ pair ∈ found.zip table.columns, columnFlaw? table.name pair.1 pair.2 = none := by
  rw [Table.columnsFlaw?]
  split
  · next hempty =>
    rw [List.isEmpty_iff] at hempty
    subst hempty
    refine iff_of_false (by rintro ⟨⟩) ?_
    rintro ⟨hlength, _⟩
    exact hcolumns (List.length_eq_zero_iff.1 hlength.symm)
  · split
    · next hlength => exact iff_of_false (by rintro ⟨⟩) fun h => hlength h.1
    · next hlength =>
      rw [List.findSome?_eq_none_iff]
      exact ⟨fun h => ⟨not_not.1 hlength, h⟩, And.right⟩

/-- Columns that are as declared have the declared names. -/
theorem map_name_of_columnsFlaw? {table : Table} {found : List LiveColumn}
    (hcolumns : table.columns ≠ []) (h : table.columnsFlaw? found = none) :
    found.map (·.name) = table.columns.map (·.name) := by
  obtain ⟨hlength, hpairs⟩ := (columnsFlaw?_eq_none_iff hcolumns).1 h
  have hnames : ∀ pair ∈ found.zip table.columns, pair.1.name = pair.2.name := by
    intro pair hpair
    have hpair := hpairs pair hpair
    by_contra hne
    rw [columnFlaw?, if_pos hne] at hpair
    cases hpair
  calc found.map (·.name)
      = ((found.zip table.columns).map Prod.fst).map (·.name) := by
        rw [List.map_fst_zip (Nat.le_of_eq hlength)]
    _ = ((found.zip table.columns).map Prod.snd).map (·.name) := by
        rw [List.map_map, List.map_map]
        exact List.map_congr_left hnames
    _ = table.columns.map (·.name) := by
        rw [List.map_snd_zip (Nat.le_of_eq hlength.symm)]

/-- A catalog that is valid for the first version has users with the columns of that version. -/
theorem exists_users_of_first (hfirst : first.validate catalog = .ok ()) :
    ∃ table, catalog.table? userTable.name = some table ∧
      userTable.columnsFlaw? table.shownColumns = none := by
  have hname := tableOfRequest?_columnsSql userTable (by simp)
  obtain ⟨hcolumns, _⟩ := (flaw?_eq_none_iff hname).1
    (validate_eq_ok_iff.1 hfirst userTable List.mem_cons_self)
  have hbuiltIn : Catalog.table? builtInTables userTable.name = none := by decide +kernel
  rw [shownUnder, table?_append, hbuiltIn, Option.or_none] at hcolumns
  cases htable : catalog.table? userTable.name with
  | none =>
    rw [htable] at hcolumns
    cases hcolumns
  | some table =>
    rw [htable] at hcolumns
    exact ⟨table, rfl, hcolumns⟩

/-- The two columns for the numbers of to-dos, as they exist. -/
def countLive (column : Column) : LiveColumn := ⟨column.name, column.type.declared, true, 0, false⟩

/-- The users of the first version with two more columns are those of the present one. -/
theorem columnsFlaw?_countingUserTable {found : List LiveColumn}
    (h : userTable.columnsFlaw? found = none) :
    countingUserTable.columnsFlaw? (found ++ [countLive pendingColumn] ++ [countLive doneColumn]) =
      none := by
  obtain ⟨hlength, hcolumns⟩ := (columnsFlaw?_eq_none_iff (by decide)).1 h
  refine (columnsFlaw?_eq_none_iff (by decide)).2 ⟨?_, ?_⟩
  · rw [List.length_append, List.length_append, hlength]
    rfl
  · intro pair hpair
    have hzip : (found ++ [countLive pendingColumn] ++ [countLive doneColumn]).zip
        countingUserTable.columns = found.zip userTable.columns ++
          [(countLive pendingColumn, pendingColumn), (countLive doneColumn, doneColumn)] := by
      rw [countingUserTable, List.append_assoc, List.zip_append hlength]
      rfl
    rw [hzip] at hpair
    rcases List.mem_append.1 hpair with hpair | hpair
    · exact hcolumns pair hpair
    · simp only [List.mem_cons, List.not_mem_nil, or_false] at hpair
      rcases hpair with rfl | rfl <;> decide

/-- The table of the users has a name of its own. -/
theorem sameName_userTable :
    ∀ other ∈ [projectTable, memberTable, todoTable],
      sameName userTable.name other.name = false := by
  decide +kernel

/-- **A catalog that is valid for the first version is valid for the present one after users got the
two columns for the numbers of their to-dos.** -/
theorem validate_latest_of_first {table : LiveTable} (hfirst : first.validate catalog = .ok ())
    (htable : catalog.table? userTable.name = some table) :
    latest.validate ((catalog.addColumn table.name (countLive pendingColumn)).addColumn table.name
      (countLive doneColumn)) = .ok () := by
  rw [validate_eq_ok_iff] at hfirst ⊢
  have hkey : sameName table.name userTable.name = true := sameName_of_table? htable
  intro declared hdeclared
  rcases List.mem_cons.1 hdeclared with rfl | hdeclared
  · have huser := (flaw?_eq_none_iff (tableOfRequest?_columnsSql userTable (by simp))).1
      (hfirst userTable List.mem_cons_self)
    rw [flaw?_eq_none_iff (tableOfRequest?_columnsSql countingUserTable (by simp))]
    have hwidened := table?_addColumn_self (countLive pendingColumn) htable
    have hname : countingUserTable.name = userTable.name := rfl
    have hpending : (countLive pendingColumn).isComputed = false := rfl
    rw [hname, shownUnder_addColumn hwidened (Sql.sameName_self _) rfl,
      shownUnder_addColumn htable (Sql.sameName_self _) hpending, indexFlaw?_addColumn,
      indexFlaw?_addColumn]
    exact ⟨columnsFlaw?_countingUserTable huser.1, huser.2⟩
  · have hother : sameName table.name declared.name = false := by
      rw [Bool.eq_false_iff]
      intro hsame
      rw [Sql.sameName_comm] at hkey
      have hnames := sameName_trans hkey hsame
      rw [sameName_userTable declared hdeclared] at hnames
      cases hnames
    have hname : Sql.tableOfRequest? declared.columnsSql = some declared.name :=
      tableOfRequest?_columnsSql declared (List.mem_cons_of_mem _ (List.mem_cons_of_mem _ hdeclared))
    refine flaw?_addColumn_of_ne hname hother (flaw?_addColumn_of_ne hname hother ?_)
    exact hfirst declared (List.mem_cons_of_mem _ hdeclared)

end TodoLedger.Schema
