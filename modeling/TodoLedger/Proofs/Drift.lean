import TodoLedger.Proofs.Opening
import TodoLedger.Proofs.Schema.Creation

/-!
# Drift between a schema and a database

* `Catalog.Has catalog live`: the table is there, made or built in. `Table.StandsIn table catalog`:
  there is a table of that name with the declared columns and at least the declared indices.
* In an orderly catalog a declared table has no flaw if and only if it stands there
  (`flaw?_eq_none_iff_standsIn`).
* `Table.IsPartOf table declared`: a table of another schema is declared with the same columns and
  at least the same indices. In what a plain schema creates a table stands if and only if it is part
  of one that is declared, or of the table of pages (`standsIn_iff`).
* **A plain schema that was created is accepted, and any schema just as far as it is part of what was
  created** (`validate_created_iff`, `standsIn_created_iff`).
* Outside of small letters a table can be found with an index that is missed
  (`index_missed_in_another_case`).
-/

namespace TodoLedger.Schema

open Sql
open Sql.Reader hiding optional

variable {catalog : Catalog} {table : Table} {live : LiveTable}

/-! ### Tables that are there -/

/-- The table is there. It was made, or it is always there, and no other has taken its name. -/
def Catalog.Has (catalog : Catalog) (live : LiveTable) : Prop :=
  live ∈ catalog ∨ (live ∈ builtInTables ∧ ∀ other ∈ catalog, other.name ≠ live.name)

/-- The table that exists has the declared columns, and the declared indices among its own. -/
structure Table.IsShownBy (table : Table) (live : LiveTable) : Prop where
  name : live.name = table.name
  columns : List.Forall₂ Column.IsShownBy table.columns live.shownColumns
  indices : ∀ index ∈ table.indices, index.name ∈ live.indices

/-- The declared table is there. -/
def Table.StandsIn (table : Table) (catalog : Catalog) : Prop :=
  ∃ live, catalog.Has live ∧ table.IsShownBy live

/-- The built-in tables are in order among each other. -/
theorem isOrderly_builtInTables : Catalog.IsOrderly builtInTables :=
  ⟨by decide +kernel, by decide +kernel, by decide +kernel, by decide +kernel⟩

/-- No built-in table has an index. -/
theorem indices_builtInTables : ∀ live ∈ builtInTables, live.indices = [] := by decide +kernel

/-- Every table that is there has a name that can be written as it is. -/
theorem isThing_of_has (h : catalog.IsOrderly) (hlive : catalog.Has live) :
    isThing live.name.toList :=
  hlive.elim (h.things live) fun hlive => isOrderly_builtInTables.things live hlive.1

/-- Every table that is there shows columns. -/
theorem shown_of_has (h : catalog.IsOrderly) (hlive : catalog.Has live) : live.shownColumns ≠ [] :=
  hlive.elim (h.shown live) fun hlive => isOrderly_builtInTables.shown live hlive.1

/-- **The table that is found under a name is the one that is there.** -/
theorem table?_builtIn_eq_some_iff (h : catalog.IsOrderly) {name : String}
    (hname : folded name = name.toList) :
    (catalog ++ builtInTables : Catalog).table? name = some live ↔
      catalog.Has live ∧ live.name = name := by
  have hnone : catalog.table? name = none ↔ ∀ other ∈ catalog, other.name ≠ name := by
    rw [Option.eq_none_iff_forall_ne_some]
    exact ⟨fun hne other hother hsame => hne other ((h.table?_eq_some_iff hname).2 ⟨hother, hsame⟩),
      fun hne other hother => by
        obtain ⟨hother, hsame⟩ := (h.table?_eq_some_iff hname).1 hother
        exact hne other hother hsame⟩
  rw [table?_append, Option.or_eq_some_iff, h.table?_eq_some_iff hname,
    isOrderly_builtInTables.table?_eq_some_iff hname, hnone, Catalog.Has]
  constructor
  · rintro (⟨hlive, rfl⟩ | ⟨hothers, hlive, rfl⟩)
    · exact ⟨.inl hlive, rfl⟩
    · exact ⟨.inr ⟨hlive, hothers⟩, rfl⟩
  · rintro ⟨hlive | ⟨hlive, hothers⟩, rfl⟩
    · exact .inl ⟨hlive, rfl⟩
    · exact .inr ⟨hothers, hlive, rfl⟩

/-! ### Flaws -/

/-- A column has no flaw if it is as declared. -/
theorem columnFlaw?_eq_none_iff {name : String} {found : LiveColumn} {column : Column} :
    columnFlaw? name found column = none ↔ column.IsShownBy found := by
  unfold columnFlaw?
  split
  · next hname => exact iff_of_false (by rintro ⟨⟩) fun h => hname h.name
  split
  · next htype => exact iff_of_false (by rintro ⟨⟩) fun h => htype h.type
  split
  · next hnull => exact iff_of_false (by rintro ⟨⟩) fun h => hnull h.nonNull
  split
  · next hkey => exact iff_of_false (by rintro ⟨⟩) fun h => hkey (propext h.key)
  · next hname htype hnull hkey =>
    exact iff_of_true rfl ⟨not_not.1 hname, not_not.1 htype, not_not.1 hnull, by rw [not_not.1 hkey]⟩

/-- Columns that are found have no flaw if they are the declared ones. -/
theorem columnsFlaw?_eq_none_iff_forall₂ {found : List LiveColumn} (hfound : found ≠ []) :
    table.columnsFlaw? found = none ↔ List.Forall₂ Column.IsShownBy table.columns found := by
  unfold Table.columnsFlaw?
  rw [if_neg (by rwa [List.isEmpty_iff])]
  split
  · next hlength => exact iff_of_false (by rintro ⟨⟩) fun h => hlength h.length_eq.symm
  · next hlength =>
    rw [List.findSome?_eq_none_iff]
    constructor
    · intro h
      have hpairs {live : LiveColumn} {column : Column}
          (hpair : (live, column) ∈ found.zip table.columns) : column.IsShownBy live :=
        columnFlaw?_eq_none_iff.1 (h _ hpair)
      exact (List.forall₂_iff_zip.2 ⟨not_not.1 hlength, hpairs⟩).flip
    · exact fun h pair hpair => columnFlaw?_eq_none_iff.2 (List.forall₂_zip h.flip hpair)

/-- An index of a table that was made exists if the table has it. -/
theorem hasIndex_iff (h : catalog.IsOrderly) (hlive : catalog.Has live) {index : String} :
    Table.hasIndex catalog live.name index ↔ index ∈ live.indices := by
  simp only [Table.hasIndex, List.any_eq_true, Bool.and_eq_true, decide_eq_true_eq,
    List.contains_iff_mem]
  constructor
  · rintro ⟨other, hother, hsame, hindex⟩
    rcases hlive with hlive | ⟨-, hothers⟩
    · rwa [h.eq_of_name hlive hother hsame.symm]
    · exact absurd hsame (hothers other hother)
  · intro hindex
    rcases hlive with hlive | ⟨hlive, -⟩
    · exact ⟨live, hlive, rfl, hindex⟩
    · rw [indices_builtInTables live hlive] at hindex
      cases hindex

/-- A declared table has a flaw if no table has its name. -/
theorem flaw?_ne_none (hname : IsIdentifier table.name)
    (hfound : (catalog ++ builtInTables : Catalog).table? table.name = none) :
    table.flaw? catalog ≠ none := by
  intro hnone
  cases hrequest : tableOfRequest? table.columnsSql with
  | none =>
    have hcolumns : table.foundColumns? catalog = none := by
      rw [Table.foundColumns?, hrequest]
      rfl
    delta Table.flaw? at hnone
    rw [hcolumns] at hnone
    cases hnone
  | some found =>
    rw [eq_of_tableOfRequest? hname hrequest] at hrequest
    have hcolumns := ((flaw?_eq_none_iff hrequest).1 hnone).1
    rw [shownUnder, hfound] at hcolumns
    cases hcolumns

/-- **A declared table has no flaw if and only if it is there.** -/
theorem flaw?_eq_none_iff_standsIn (h : catalog.IsOrderly) (hname : IsIdentifier table.name) :
    table.flaw? catalog = none ↔ table.StandsIn catalog := by
  have hthere (live : LiveTable) : (catalog ++ builtInTables : Catalog).table? table.name = some live ↔
      catalog.Has live ∧ live.name = table.name :=
    table?_builtIn_eq_some_iff h hname.folded_eq
  cases hfound : (catalog ++ builtInTables : Catalog).table? table.name with
  | none =>
    refine iff_of_false (flaw?_ne_none hname hfound) fun ⟨live, hlive, hshown⟩ => ?_
    have hsome := (hthere live).2 ⟨hlive, hshown.name⟩
    rw [hfound] at hsome
    cases hsome
  | some live =>
    obtain ⟨hlive, hsame⟩ := (hthere live).1 hfound
    have hrequest := tableOfRequest?_of_isThing hname (hsame ▸ isThing_of_has h hlive)
    have hshown : shownUnder catalog table.name = live.shownColumns := by
      rw [shownUnder, hfound]
      rfl
    have hindices : table.indexFlaw? catalog = none ↔
        ∀ index ∈ table.indices, index.name ∈ live.indices := by
      simp only [Table.indexFlaw?, Option.map_eq_none_iff, List.find?_eq_none, Bool.not_eq_true,
        Bool.not_eq_false', ← hsame, hasIndex_iff h hlive]
    rw [flaw?_eq_none_iff hrequest, hshown,
      columnsFlaw?_eq_none_iff_forall₂ (shown_of_has h hlive), hindices]
    constructor
    · exact fun hflaw => ⟨live, hlive, hsame, hflaw.1, hflaw.2⟩
    · rintro ⟨other, hother, hshown⟩
      have hsome := (hthere other).2 ⟨hother, hshown.name⟩
      rw [hfound] at hsome
      obtain rfl := Option.some.inj hsome
      exact ⟨hshown.columns, hshown.indices⟩

/-! ### Parts of what is declared -/

/-- The columns have the same name, type and flags. -/
structure Column.IsLike (column declared : Column) : Prop where
  name : column.name = declared.name
  type : column.type = declared.type
  nonNull : column.nonNull = declared.nonNull
  primaryKey : column.primaryKey = declared.primaryKey

/-- The table is declared with the same columns in the same order, and with at least the same
indices. -/
structure Table.IsPartOf (table declared : Table) : Prop where
  name : table.name = declared.name
  columns : List.Forall₂ Column.IsLike table.columns declared.columns
  indices : ∀ index ∈ table.indices, index.name ∈ declared.indices.map (·.name)

/-- The table of pages, as it could be declared. -/
def pages : Table where
  name := pageTable.name
  columns := [("name", .text), ("path", .text), ("pageno", .integer), ("pagetype", .text),
    ("ncell", .integer), ("payload", .integer), ("unused", .integer), ("mx_payload", .integer),
    ("pgoffset", .integer), ("pgsize", .integer)].map fun (name, type) => { name, type }

/-- The tables of a database of the schema: the declared ones, and the table of pages if none of them
has its name. -/
def Versioned.visible (schema : Versioned) : List Table :=
  schema.tables ++ if schema.tables.any (·.name = pages.name) then [] else [pages]

/-- Types that are declared alike are the same. -/
theorem declared_injective : Function.Injective ColumnType.declared := by
  intro a b h
  cases a <;> cases b
  · rfl
  · exact absurd h (by decide)
  · exact absurd h (by decide)
  · rfl

/-- A column that exists shows what is like the column that it was made as. -/
theorem Column.IsShownBy.isLike {column declared : Column} {live : LiveColumn}
    (h : column.IsShownBy live) (hdeclared : declared.IsShownBy live) : column.IsLike declared where
  name := h.name.symm.trans hdeclared.name
  type := declared_injective (h.type.symm.trans hdeclared.type)
  nonNull := h.nonNull.symm.trans hdeclared.nonNull
  primaryKey := Bool.eq_iff_iff.2 (h.key.symm.trans hdeclared.key)

/-- What is like the column that was made is shown by what it was made as. -/
theorem Column.IsLike.isShownBy {column declared : Column} {live : LiveColumn}
    (h : column.IsLike declared) (hdeclared : declared.IsShownBy live) : column.IsShownBy live where
  name := hdeclared.name.trans h.name.symm
  type := by rw [hdeclared.type, h.type]
  nonNull := hdeclared.nonNull.trans h.nonNull.symm
  key := by rw [hdeclared.key, h.primaryKey]

/-- Columns show what is declared if they show what is like it. -/
theorem forall₂_isShownBy_iff {columns declared : List Column} {lives : List LiveColumn}
    (h : List.Forall₂ Column.IsShownBy declared lives) :
    List.Forall₂ Column.IsShownBy columns lives ↔ List.Forall₂ Column.IsLike columns declared := by
  induction h generalizing columns with
  | nil => simp
  | cons hfirst _ ih =>
    cases columns with
    | nil => simp
    | cons column columns =>
      rw [List.forall₂_cons, List.forall₂_cons, ih]
      exact and_congr_left' ⟨fun h => h.isLike hfirst, fun h => h.isShownBy hfirst⟩

/-- **What is made as one table shows another if this is part of it.** -/
theorem isShownBy_iff_isPartOf {declared : Table} (hnames : table.IsOverIdentifiers)
    (hmade : declared.IsMadeAs live) : table.IsShownBy live ↔ table.IsPartOf declared := by
  have hindices (index : Index) (hindex : index ∈ table.indices) :=
    hmade.indices index.name (hnames.indices index hindex).own
  constructor
  · intro h
    exact ⟨h.name.symm.trans hmade.name, (forall₂_isShownBy_iff hmade.columns).1 h.columns,
      fun index hindex => (hindices index hindex).1 (h.indices index hindex)⟩
  · intro h
    exact ⟨hmade.name.trans h.name.symm, (forall₂_isShownBy_iff hmade.columns).2 h.columns,
      fun index hindex => (hindices index hindex).2 (h.indices index hindex)⟩

/-- The table of pages is what its declaration would make. -/
theorem isMadeAs_pages : pages.IsMadeAs pageTable := by
  refine ⟨rfl, (columnsFlaw?_eq_none_iff_forall₂ (by decide)).1 (by decide +kernel), ?_⟩
  simp [pages, pageTable]

/-- The table of pages is the only built-in one that could be declared. -/
theorem eq_pageTable : ∀ live ∈ builtInTables, live.shownColumns.head?.any (·.type = "") ∨
    isInternal live.name ∨ live = pageTable := by
  decide +kernel

/-- A built-in table that shows declared columns is the table of pages. -/
theorem eq_pageTable_of_isShownBy (hnames : table.IsOverIdentifiers) (hlive : live ∈ builtInTables)
    (h : table.IsShownBy live) : live = pageTable := by
  rcases eq_pageTable live hlive with htype | hown | hpages
  · have hcolumns := h.columns
    cases hshown : live.shownColumns with
    | nil => exact absurd hshown (isOrderly_builtInTables.shown live hlive)
    | cons first _ =>
      rw [hshown] at hcolumns htype
      obtain ⟨column, _, hfirst, -, -⟩ := List.forall₂_cons_right_iff.1 hcolumns
      have hnone : column.type.declared = "" := hfirst.type.symm.trans (of_decide_eq_true htype)
      cases htypes : column.type with
      | text => simp [htypes, ColumnType.declared] at hnone
      | integer => simp [htypes, ColumnType.declared] at hnone
  · rw [h.name, hnames.name.own] at hown
    cases hown
  · exact hpages

/-- A table is visible if it is declared, or is the table of pages and no declared one takes its
name. -/
theorem mem_visible {schema : Versioned} {declared : Table} : declared ∈ schema.visible ↔
    declared ∈ schema.tables ∨
      (declared = pages ∧ ∀ other ∈ schema.tables, other.name ≠ pages.name) := by
  rw [Versioned.visible, List.mem_append]
  refine or_congr_right ?_
  split
  · next h =>
    obtain ⟨other, hother, hname⟩ := List.any_eq_true.1 h
    exact iff_of_false List.not_mem_nil fun hpages => hpages.2 other hother (of_decide_eq_true hname)
  · next h =>
    have hothers : ∀ other ∈ schema.tables, other.name ≠ pages.name := fun other hother hname =>
      h (List.any_eq_true.2 ⟨other, hother, decide_eq_true hname⟩)
    rw [List.mem_singleton, and_iff_left hothers]

/-- **Where a plain schema was created, a table is there if and only if it is part of a declared one,
or of the table of pages.** -/
theorem standsIn_iff {schema : Versioned} (hmade : List.Forall₂ Table.IsMadeAs schema.tables catalog)
    (hnames : table.IsOverIdentifiers) :
    table.StandsIn catalog ↔ ∃ declared ∈ schema.visible, table.IsPartOf declared := by
  constructor
  · rintro ⟨live, hlive | ⟨hlive, hothers⟩, hshown⟩
    · obtain ⟨declared, hdeclared, hmade⟩ := exists_of_mem_right hmade hlive
      exact ⟨declared, mem_visible.2 (.inl hdeclared),
        (isShownBy_iff_isPartOf hnames hmade).1 hshown⟩
    · obtain rfl := eq_pageTable_of_isShownBy hnames hlive hshown
      refine ⟨pages, mem_visible.2 (.inr ⟨rfl, fun other hother => ?_⟩),
        (isShownBy_iff_isPartOf hnames isMadeAs_pages).1 hshown⟩
      obtain ⟨live, hlive, hlive'⟩ := exists_of_mem_left hmade hother
      rw [← hlive'.name]
      exact hothers live hlive
  · rintro ⟨declared, hdeclared, hpart⟩
    rcases mem_visible.1 hdeclared with hdeclared | ⟨rfl, hothers⟩
    · obtain ⟨live, hlive, hmade⟩ := exists_of_mem_left hmade hdeclared
      exact ⟨live, .inl hlive, (isShownBy_iff_isPartOf hnames hmade).2 hpart⟩
    · refine ⟨pageTable, .inr ⟨by decide +kernel, fun live hlive => ?_⟩,
        (isShownBy_iff_isPartOf hnames isMadeAs_pages).2 hpart⟩
      obtain ⟨other, hother, hmade⟩ := exists_of_mem_right hmade hlive
      rw [hmade.name]
      exact hothers other hother

/-! ### Created schemas -/

section Created

variable {schema : Versioned} {made : Snapshot} (hnames : schema.IsOverIdentifiers)
  (hmade : Snapshot.create schema = .ok made)
include hmade

/-- The stamp and the tables of a database that was created. -/
theorem eq_of_create :
    made.stamp = stampOf schema.version ∧ schema.create [] = .ok made.catalog := by
  have hmade : (schema.create [] >>= fun catalog =>
      Except.ok { Snapshot.empty with stamp := stampOf schema.version, catalog }) = .ok made := hmade
  generalize schema.create [] = created at hmade ⊢
  cases created with
  | error => cases hmade
  | ok catalog =>
    obtain rfl := Except.ok.inj hmade
    exact ⟨rfl, rfl⟩

include hnames

/-- What a schema creates is in order. -/
theorem isOrderly_created : made.catalog.IsOrderly :=
  isOrderly_of_create hnames isOrderly_nil (eq_of_create hmade).2

/-- A schema is accepted in a database just as far as its tables are there. -/
theorem validate_created_iff {other : Versioned} (hother : other.IsOverIdentifiers) :
    other.validate made.catalog = .ok () ↔ ∀ table ∈ other.tables, table.StandsIn made.catalog := by
  rw [validate_eq_ok_iff]
  exact forall₂_congr fun table htable =>
    flaw?_eq_none_iff_standsIn (isOrderly_created hnames hmade) (hother table htable).name

/-- In a database of a plain schema a table is there if it is part of a declared one. -/
theorem standsIn_created_iff (hplain : schema.IsPlain) (htable : table.IsOverIdentifiers) :
    table.StandsIn made.catalog ↔ ∃ declared ∈ schema.visible, table.IsPartOf declared := by
  obtain ⟨lives, hlives, hmadeAs⟩ := forall₂_isMadeAs hnames hplain (eq_of_create hmade).2
  rw [List.nil_append] at hlives
  rw [hlives]
  exact standsIn_iff hmadeAs htable

end Created

/-- A column is like itself. -/
theorem Column.IsLike.refl (column : Column) : column.IsLike column := ⟨rfl, rfl, rfl, rfl⟩

/-- A table is part of itself. -/
theorem Table.IsPartOf.refl (table : Table) : table.IsPartOf table :=
  ⟨rfl, List.forall₂_same.2 fun column _ => .refl column, fun _ => List.mem_map_of_mem⟩

/-- **The version is read from the stamp of a database, a plain schema is accepted where it was
created, and any other schema is accepted if and only if all its tables are there**: if each is part
of a declared one. -/
theorem drift_detected {schema : Versioned} (hnames : schema.IsOverIdentifiers) {made : Snapshot}
    (hmade : Snapshot.create schema = .ok made) :
    (stampOffset + schema.version ≤ 2147483647 → versionOf made.stamp = .ok schema.version) ∧
      (schema.IsPlain → schema.validate made.catalog = .ok ()) ∧
      ∀ other : Versioned, other.IsOverIdentifiers →
        (other.validate made.catalog = .ok () ↔
          ∀ table ∈ other.tables, table.StandsIn made.catalog) ∧
        (schema.IsPlain → (other.validate made.catalog = .ok () ↔
          ∀ table ∈ other.tables, ∃ declared ∈ schema.visible, table.IsPartOf declared)) := by
  have hstands (hplain : schema.IsPlain) {other : Versioned} (hother : other.IsOverIdentifiers) :
      other.validate made.catalog = .ok () ↔
        ∀ table ∈ other.tables, ∃ declared ∈ schema.visible, table.IsPartOf declared := by
    rw [validate_created_iff hnames hmade hother]
    exact forall₂_congr fun table htable =>
      standsIn_created_iff hnames hmade hplain (hother table htable)
  refine ⟨fun hfits => ?_, fun hplain => (hstands hplain hnames).2 fun table htable => ?_,
    fun other hother => ⟨validate_created_iff hnames hmade hother, fun hplain => hstands hplain hother⟩⟩
  · rw [(eq_of_create hmade).1, stampOf, if_pos hfits, versionOf, if_neg (by omega)]
    congr 1
    omega
  · exact ⟨table, mem_visible.2 (.inl htable), .refl table⟩

/-- What was made can be looked at, to see that it was made and has a property. -/
theorem exists_made {created : Except Fault Snapshot} {p : Snapshot → Prop} [DecidablePred p]
    (h : created.toOption.any fun made => decide (p made)) : ∃ made, created = .ok made ∧ p made := by
  cases created with
  | error => cases h
  | ok made => exact ⟨made, rfl, of_decide_eq_true h⟩

/-- The latest version of the program's own schema. -/
theorem drift_detected_latest : latest.IsOverIdentifiers ∧ latest.IsPlain ∧
    stampOffset + latest.version ≤ 2147483647 ∧
    ∃ made, Snapshot.create latest = .ok made ∧ versionOf made.stamp = .ok latest.version ∧
      latest.validate made.catalog = .ok () ∧
      (∀ table ∈ latest.tables, table.StandsIn made.catalog) ∧
      ∀ table ∈ latest.tables, ∃ declared ∈ latest.visible, table.IsPartOf declared := by
  have hnames : latest.IsOverIdentifiers := by decide +kernel
  have hplain : latest.IsPlain := by decide +kernel
  obtain ⟨made, hmade, -⟩ := exists_create latest (by simp [history])
  obtain ⟨hversion, hvalid, hother⟩ := drift_detected hnames hmade
  obtain ⟨hthere, hpart⟩ := hother latest hnames
  exact ⟨hnames, hplain, by decide, made, hmade, hversion (by decide), hvalid hplain,
    hthere.1 (hvalid hplain), (hpart hplain).1 (hvalid hplain)⟩

/-- The second column is read as a rule of the table that has a name. -/
def misreadName : Versioned :=
  ⟨1, [{ name := "t", columns := [{ name := "a", type := .integer },
    { name := "constraint", type := .integer }] }]⟩

/-- The default is read as a default and another clause. -/
def misreadDefault : Versioned :=
  ⟨1, [{ name := "t", columns := [{ name := "a", type := .integer, default := "0 NOT NULL" }] }]⟩

/-- **A schema that is not plain can be created and then be rejected**: a column's name or a default is
read as another clause. -/
theorem created_and_rejected :
    (misreadName.IsOverIdentifiers ∧ ∃ made, Snapshot.create misreadName = .ok made ∧
      versionOf made.stamp = .ok 1 ∧ misreadName.validate made.catalog ≠ .ok ()) ∧
    misreadDefault.IsOverIdentifiers ∧ ∃ made, Snapshot.create misreadDefault = .ok made ∧
      versionOf made.stamp = .ok 1 ∧ misreadDefault.validate made.catalog ≠ .ok () := by
  refine ⟨⟨by decide +kernel, exists_made ?_⟩, by decide +kernel, exists_made ?_⟩
  · decide +kernel
  · decide +kernel

/-- A table with an index, under a name of choice. -/
def indexed (name : String) : Versioned :=
  ⟨1, [{ name, columns := [{ name := "a", type := .integer }], indices := [⟨"i", "a"⟩] }]⟩

/-- Outside of small letters, a table can be there with an index that is missed: the table is found
whatever the case of its name, and its indices only under the name itself. -/
theorem index_missed_in_another_case :
    ∃ made, Snapshot.create (indexed "users") = .ok made ∧
      (made.catalog.table? "Users").any (·.indices.contains "i") ∧
      (indexed "Users").validate made.catalog ≠ .ok () := by
  refine exists_made ?_
  decide +kernel

end TodoLedger.Schema
