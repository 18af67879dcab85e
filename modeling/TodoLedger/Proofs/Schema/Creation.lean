import TodoLedger.Proofs.Schema.Making
import TodoLedger.Proofs.Schema.Statements
import TodoLedger.Proofs.Schema.Widening

/-!
# Creating the tables of a schema

* A table that is created stands behind all others, with the columns that its definition makes and
  the declared indices (`exists_of_create`).
* `Catalog.IsOrderly catalog`: every table has a name of its own in small letters and shows a column.
  **All that a schema over identifiers creates is orderly** (`isOrderly_of_create`).
* `Table.IsMadeAs table live`: the table that exists has the columns and the indices that are
  declared. **A plain schema creates one table for each that is declared, and no other**
  (`forall₂_isMadeAs`).
-/

namespace TodoLedger.Schema

open Sql
open Sql.Reader hiding optional

variable {catalog next : Catalog} {table : Table} {live : LiveTable}

/-! ### One table -/

/-- No table is found under a name that none has. -/
theorem table?_eq_none_iff {name : String} :
    catalog.table? name = none ↔ ∀ live ∈ catalog, sameName live.name name = false := by
  simp only [Catalog.table?, List.find?_eq_none, Bool.not_eq_true]

/-- The table for counting is not one that a statement can create. -/
theorem sameName_sequenceTable {name : String} (hown : isInternal name = false) :
    sameName sequenceTable.name name = false := by
  refine Bool.eq_false_iff.2 fun hsame => ?_
  have hinternal : isInternal sequenceTable.name = isInternal name := by
    rw [isInternal, isInternal, of_decide_eq_true hsame]
  rw [hown] at hinternal
  revert hinternal
  decide

/-- The table for counting, if it comes with a new table. -/
def Catalog.counter (catalog : Catalog) (isCounting : Bool) : Catalog :=
  if isCounting && (catalog.table? sequenceTable.name).isNone then [sequenceTable] else []

/-- A table is added at the end, before the table for counting if that comes with it. -/
theorem addTable_eq (catalog : Catalog) (live : LiveTable) (isCounting : Bool) :
    catalog.addTable live isCounting = catalog ++ live :: catalog.counter isCounting := by
  rw [Catalog.addTable, Catalog.counter]
  split <;> rfl

/-- Only the table for counting comes with another, and only if it is not there yet. -/
theorem eq_of_mem_counter {isCounting : Bool} {other : LiveTable}
    (h : other ∈ catalog.counter isCounting) :
    other = sequenceTable ∧ catalog.table? sequenceTable.name = none := by
  rw [Catalog.counter] at h
  split at h
  · next hwanted =>
    exact ⟨List.mem_singleton.1 h, Option.isNone_iff_eq_none.1 (Bool.and_eq_true_iff.1 hwanted).2⟩
  · cases h

section Added

variable (hnew : catalog.table? live.name = none)
include hnew

/-- A new table is found. -/
theorem table?_addTable (isCounting : Bool) :
    (catalog.addTable live isCounting).table? live.name = some live := by
  rw [addTable_eq, table?_append, hnew, Option.none_or]
  exact List.find?_cons_of_pos (sameName_self _)

/-- An index of the new table changes no other. -/
theorem addIndex_addTable (hown : isInternal live.name = false) (isCounting : Bool) (index : String) :
    (catalog.addTable live isCounting).addIndex live.name index =
      catalog.addTable { live with indices := live.indices ++ [index] } isCounting := by
  have hsame {others : Catalog} (hothers : ∀ other ∈ others, sameName other.name live.name = false) :
      others.addIndex live.name index = others := by
    refine (List.map_congr_left fun other hother => ?_).trans (List.map_id _)
    rw [hothers other hother]
    rfl
  have hcounter : ∀ other ∈ catalog.counter isCounting, sameName other.name live.name = false :=
    fun other hother => by
      rw [(eq_of_mem_counter hother).1]
      exact sameName_sequenceTable hown
  calc (catalog.addTable live isCounting).addIndex live.name index
      = catalog.addIndex live.name index ++ Catalog.addIndex [live] live.name index ++
          (catalog.counter isCounting).addIndex live.name index := by
        rw [addTable_eq, Catalog.addIndex, Catalog.modify, List.map_append, List.map_cons,
          List.append_cons]
        rfl
    _ = catalog ++ [{ live with indices := live.indices ++ [index] }] ++
          catalog.counter isCounting := by
        rw [hsame (table?_eq_none_iff.1 hnew), hsame hcounter, Catalog.addIndex, Catalog.modify,
          List.map_singleton, if_pos (sameName_self _)]
    _ = catalog.addTable { live with indices := live.indices ++ [index] } isCounting := by
        rw [addTable_eq, ← List.append_cons]

end Added

/-- The statement for a new index adds it to the table that it names. -/
theorem exists_of_createIndex? {place : Place} {index : IndexDefinition}
    (h : catalog.createIndex? false place index = some next) :
    ∃ found, catalog.table? index.table = some found ∧
      next = catalog.addIndex found.name index.name := by
  obtain ⟨found, hfound, h⟩ := Option.bind_eq_some_iff.1 h
  refine ⟨found, hfound, ?_⟩
  split at h
  · cases h
  split at h
  · cases h
  split at h
  · cases h
  split at h
  · exact (Option.some.inj h).symm
  · cases h

/-- The first index is created before the others. -/
theorem exists_of_createIndices_cons {index : Index} {indices : List Index}
    (h : table.createIndices (index :: indices) catalog = .ok next) :
    ∃ middle, catalog.run? (table.createIndexSql index) = some middle ∧
      table.createIndices indices middle = .ok next := by
  unfold Table.createIndices at h
  generalize catalog.run? (table.createIndexSql index) = found at h ⊢
  cases found with
  | none => cases h
  | some middle => exact ⟨middle, rfl, h⟩

/-- **The declared indices are added to a new table, one by one.** -/
theorem eq_of_createIndices (hname : IsIdentifier table.name) (hlive : live.name = table.name)
    (hnew : catalog.table? live.name = none) {isCounting : Bool} {indices : List Index}
    (hindices : ∀ index ∈ indices, IsIdentifier index.name)
    (h : table.createIndices indices (catalog.addTable live isCounting) = .ok next) :
    next =
      catalog.addTable { live with indices := live.indices ++ indices.map (·.name) } isCounting := by
  induction indices generalizing live with
  | nil =>
    obtain rfl := Except.ok.inj h
    rw [List.map_nil, List.append_nil]
  | cons index indices ih =>
    obtain ⟨middle, hrun, h⟩ := exists_of_createIndices_cons h
    obtain ⟨statement, hread, hrun⟩ := Option.bind_eq_some_iff.1 hrun
    obtain ⟨terms, condition, rfl⟩ :=
      exists_of_createIndexSql hname (hindices index List.mem_cons_self) hread
    obtain ⟨found, hfound, rfl⟩ := exists_of_createIndex? hrun
    have hown : isInternal live.name = false := hlive ▸ hname.own
    dsimp only at hfound
    rw [← hlive, table?_addTable hnew] at hfound
    obtain rfl := Option.some.inj hfound
    rw [addIndex_addTable hnew hown] at h
    have hlater := @ih { live with indices := live.indices ++ [index.name] } hlive hnew
      (List.forall_mem_of_forall_mem_cons hindices) h
    rw [hlater, List.map_cons, List.append_assoc, List.singleton_append]

/-- The statement for a new table adds what its definition makes. -/
theorem exists_of_createTable? {definition : TableDefinition}
    (h : catalog.createTable? false .main definition = some next) :
    ∃ live, definition.live? = some live ∧ catalog.table? definition.name = none ∧
      next = catalog.addTable live definition.isCounting := by
  rw [Catalog.createTable?] at h
  split at h
  · cases h
  rw [if_neg (by decide)] at h
  split at h
  · cases h
  · next hnew =>
    split at h
    · cases h
    · obtain ⟨live, hlive, rfl⟩ := Option.map_eq_some_iff.1 h
      exact ⟨live, hlive, by simpa using hnew, rfl⟩

/-- **A table that is created stands behind all others**, with what its definition makes and the
declared indices. -/
theorem exists_of_create (hnames : table.IsOverIdentifiers) (h : table.create catalog = .ok next) :
    ∃ definition live, Statement.ofText? table.createSql =
        some (.createTable false .main definition) ∧
      definition.name = table.name ∧ isThing table.name.toList ∧ definition.live? = some live ∧
      catalog.table? table.name = none ∧
      next = catalog.addTable { live with indices := live.indices ++ table.indices.map (·.name) }
        definition.isCounting := by
  delta Table.create at h
  generalize hrun : catalog.run? table.createSql = found at h
  cases found with
  | none => cases h
  | some middle =>
    obtain ⟨statement, hread, hrun⟩ := Option.bind_eq_some_iff.1 hrun
    obtain ⟨definition, rfl, hname, hthing⟩ := exists_of_createSql hnames.name hread
    obtain ⟨live, hlive, hnew, rfl⟩ := exists_of_createTable? hrun
    have hsame : live.name = table.name := (name_of_live? hlive).trans hname
    refine ⟨definition, live, hread, hname, hthing, hlive, hname ▸ hnew, ?_⟩
    rw [hname, ← hsame] at hnew
    exact eq_of_createIndices hnames.name hsame hnew hnames.indices h

/-! ### All tables -/

/-- Every table has a name of its own, in small letters, by which it can be asked for, and shows a
column. -/
structure Catalog.IsOrderly (catalog : Catalog) : Prop where
  small : ∀ live ∈ catalog, folded live.name = live.name.toList
  things : ∀ live ∈ catalog, isThing live.name.toList
  distinct : catalog.Pairwise (·.name ≠ ·.name)
  shown : ∀ live ∈ catalog, live.shownColumns ≠ []

/-- In an orderly catalog the name tells which table it is. -/
theorem Catalog.IsOrderly.eq_of_name (h : catalog.IsOrderly) {other : LiveTable}
    (hlive : live ∈ catalog) (hother : other ∈ catalog) (hname : live.name = other.name) :
    live = other :=
  List.inj_on_of_nodup_map (List.pairwise_map.2 h.distinct) hlive hother hname

/-- In an orderly catalog a table is found under its name, and under no other in small letters. -/
theorem Catalog.IsOrderly.table?_eq_some_iff (h : catalog.IsOrderly) {name : String}
    (hname : folded name = name.toList) :
    catalog.table? name = some live ↔ live ∈ catalog ∧ live.name = name := by
  have hfound {found : LiveTable} (hfound : catalog.table? name = some found) :
      found ∈ catalog ∧ found.name = name := by
    have hmem := List.mem_of_find?_eq_some hfound
    have hsame := of_decide_eq_true (sameName_of_table? hfound)
    rw [h.small found hmem, hname, String.toList_inj] at hsame
    exact ⟨hmem, hsame⟩
  refine ⟨hfound, fun hlive => ?_⟩
  cases hother : catalog.table? name with
  | none =>
    have hsame := table?_eq_none_iff.1 hother live hlive.1
    rw [hlive.2, sameName_self] at hsame
    cases hsame
  | some other =>
    obtain ⟨hmem, hsame⟩ := hfound hother
    rw [h.eq_of_name hmem hlive.1 (hsame.trans hlive.2.symm)]

/-- Without tables the catalog is in order. -/
theorem isOrderly_nil : Catalog.IsOrderly [] := ⟨by simp, by simp, .nil, by simp⟩

/-- A new table keeps a catalog orderly. -/
theorem Catalog.IsOrderly.addTable (h : catalog.IsOrderly) (hname : IsIdentifier live.name)
    (hthing : isThing live.name.toList) (hnew : catalog.table? live.name = none)
    (hshown : live.shownColumns ≠ []) (isCounting : Bool) :
    (catalog.addTable live isCounting).IsOrderly := by
  have hmem {p : LiveTable → Prop} (hall : ∀ other ∈ catalog, p other) (hlive : p live)
      (hsequence : p sequenceTable) :
      ∀ other ∈ catalog ++ live :: catalog.counter isCounting, p other := by
    intro other hother
    rcases List.mem_append.1 hother with hother | hother
    · exact hall other hother
    · rcases List.mem_cons.1 hother with rfl | hother
      · exact hlive
      · rwa [(eq_of_mem_counter hother).1]
  have hne {others : Catalog} {name : String} (hnone : others.table? name = none) :
      ∀ other ∈ others, other.name ≠ name := fun other hother hsame => by
    have hother := table?_eq_none_iff.1 hnone other hother
    rw [hsame, sameName_self] at hother
    cases hother
  have hcounter : ∀ other ∈ catalog.counter isCounting, live.name ≠ other.name :=
    fun other hother hsame => by
      have hsequence := sameName_sequenceTable hname.own
      rw [(eq_of_mem_counter hother).1] at hsame
      rw [hsame, sameName_self] at hsequence
      cases hsequence
  rw [addTable_eq]
  refine ⟨hmem h.small hname.folded_eq (by decide), hmem h.things hthing (by decide +kernel), ?_,
    hmem h.shown hshown (by decide)⟩
  refine List.pairwise_append.2 ⟨h.distinct, List.pairwise_cons.2 ⟨hcounter, ?_⟩, ?_⟩
  · rw [Catalog.counter]
    split
    · exact List.pairwise_singleton _ _
    · exact .nil
  · intro other hother added hadded
    rcases List.mem_cons.1 hadded with rfl | hadded
    · exact hne hnew other hother
    · obtain ⟨rfl, hnone⟩ := eq_of_mem_counter hadded
      exact hne hnone other hother

/-- Of several tables the first is created before the others. -/
theorem exists_of_foldlM_cons {tables : List Table}
    (h : (table :: tables).foldlM (fun catalog table => table.create catalog) catalog = .ok next) :
    ∃ middle, table.create catalog = .ok middle ∧
      tables.foldlM (fun catalog table => table.create catalog) middle = .ok next := by
  rw [List.foldlM_cons] at h
  generalize table.create catalog = created at h ⊢
  cases created with
  | error => cases h
  | ok middle => exact ⟨middle, rfl, h⟩

/-- **Creating a table keeps a catalog orderly.** -/
theorem Catalog.IsOrderly.create (h : catalog.IsOrderly) (hnames : table.IsOverIdentifiers)
    (hmade : table.create catalog = .ok next) : next.IsOrderly := by
  obtain ⟨definition, live, -, hname, hthing, hlive, hnew, rfl⟩ := exists_of_create hnames hmade
  have hsame : live.name = table.name := (name_of_live? hlive).trans hname
  have hidentifier : IsIdentifier live.name := hsame ▸ hnames.name
  have hshown := shownColumns_ne_nil hlive
  rw [← hsame] at hthing hnew
  exact @Catalog.IsOrderly.addTable catalog
    { live with indices := live.indices ++ table.indices.map (·.name) } h hidentifier hthing hnew
    hshown definition.isCounting

/-- **All that a schema over identifiers creates is orderly.** -/
theorem isOrderly_of_create {tables : List Table}
    (hnames : ∀ table ∈ tables, table.IsOverIdentifiers) (h : catalog.IsOrderly)
    (hmade : tables.foldlM (fun catalog table => table.create catalog) catalog = .ok next) :
    next.IsOrderly := by
  induction tables generalizing catalog with
  | nil =>
    obtain rfl : catalog = next := Except.ok.inj hmade
    exact h
  | cons table tables ih =>
    obtain ⟨middle, hfirst, hlater⟩ := exists_of_foldlM_cons hmade
    exact ih (List.forall_mem_of_forall_mem_cons hnames)
      (h.create (hnames table List.mem_cons_self) hfirst) hlater

/-! ### Plain tables -/

/-- The table that exists has what is declared, and no other index but those that the database names
itself. -/
structure Table.IsMadeAs (table : Table) (live : LiveTable) : Prop where
  name : live.name = table.name
  columns : List.Forall₂ Column.IsShownBy table.columns live.shownColumns
  indices : ∀ index, isInternal index = false →
    (index ∈ live.indices ↔ index ∈ table.indices.map (·.name))

/-- **A plain table is made as it is declared, and behind all others.** -/
theorem exists_isMadeAs (hnames : table.IsOverIdentifiers)
    (hplain : ∀ column ∈ table.columns, column.IsPlain) (hmade : table.create catalog = .ok next) :
    ∃ live, next = catalog ++ [live] ∧ table.IsMadeAs live := by
  obtain ⟨definition, live, hread, hname, -, hlive, -, rfl⟩ := exists_of_create hnames hmade
  have hmakes := makes_of_createSql hnames hplain hread
  have hcolumns := hmakes.forall₂_isShownBy hnames hlive
  refine ⟨{ live with indices := live.indices ++ table.indices.map (·.name) }, ?_,
    (name_of_live? hlive).trans hname, hcolumns, fun index hown => ?_⟩
  · rw [addTable_eq, hmakes.isCounting]
    rfl
  · refine List.mem_append.trans (or_iff_right fun hindex => ?_)
    rw [isInternal_of_mem_indices hlive hindex] at hown
    cases hown

/-- **A plain schema creates one table for each that is declared, and no other.** -/
theorem forall₂_isMadeAs {tables : List Table} (hnames : ∀ table ∈ tables, table.IsOverIdentifiers)
    (hplain : ∀ table ∈ tables, ∀ column ∈ table.columns, column.IsPlain)
    (hmade : tables.foldlM (fun catalog table => table.create catalog) catalog = .ok next) :
    ∃ lives, next = catalog ++ lives ∧ List.Forall₂ Table.IsMadeAs tables lives := by
  induction tables generalizing catalog with
  | nil =>
    obtain rfl : catalog = next := Except.ok.inj hmade
    exact ⟨[], (List.append_nil _).symm, .nil⟩
  | cons table tables ih =>
    obtain ⟨middle, hfirst, hlater⟩ := exists_of_foldlM_cons hmade
    obtain ⟨live, rfl, hlive⟩ := exists_isMadeAs (hnames table List.mem_cons_self)
      (hplain table List.mem_cons_self) hfirst
    obtain ⟨lives, rfl, hlives⟩ := ih
      (List.forall_mem_of_forall_mem_cons hnames)
      (List.forall_mem_of_forall_mem_cons hplain) hlater
    exact ⟨live :: lives, List.append_assoc _ _ _, .cons hlive hlives⟩

end TodoLedger.Schema
