import Mathlib.Data.List.Forall2
import Mathlib.Data.List.Nodup
import TodoLedger.Proofs.Schema.Definitions
import TodoLedger.Schema.Definition

/-!
# The table that a declaration makes

* `Column.IsShownBy column live`: what exists has the name, the type and the two flags that are
  declared.
* Only the columns that are declared so are primary keys (`Table.Makes.filter_keys`), and the primary
  key consists of them (`Table.Makes.primaryNames_eq`).
* **A definition that says what a table declares makes a table that shows the declared columns**
  (`Table.Makes.forall₂_isShownBy`).
* Every table that is made shows a column (`shownColumns_ne_nil`), and has no index but those that
  the database itself names (`isInternal_of_mem_indices`).
-/

namespace TodoLedger.Schema

open Sql

variable {definition : TableDefinition} {table : Table}

/-! ### Columns -/

/-- The column that exists has what is declared. -/
structure Column.IsShownBy (column : Column) (live : LiveColumn) : Prop where
  name : live.name = column.name
  type : live.type = column.type.declared
  nonNull : live.nonNull = column.nonNull
  key : live.keyPosition = 1 ↔ column.primaryKey

namespace Clause

/-- True of the clause that a column is never empty. -/
def isNonNull : Clause → Bool
  | nonNull => true
  | _ => false

/-- The key that a clause declares for the column of that name. -/
def key? (name : String) : Clause → Option DeclaredKey
  | primaryKey => some ⟨true, true, false, [⟨.name name .other, false⟩]⟩
  | unique => some ⟨false, false, false, [⟨.name name .other, false⟩]⟩
  | _ => none

/-- What the rule for a clause says. -/
theorem Makes.facts {clause : Clause} {rule : ColumnRule} (h : clause.Makes rule)
    (made : ColumnDefinition) :
    rule.isNonNull = clause.isNonNull ∧ rule.isComputed = false ∧
      TableDefinition.columnKey? made rule = clause.key? made.name := by
  cases clause with
  | primaryKey =>
    obtain rfl : rule = _ := h
    exact ⟨rfl, rfl, rfl⟩
  | nonNull =>
    obtain rfl : rule = _ := h
    exact ⟨rfl, rfl, rfl⟩
  | unique =>
    obtain rfl : rule = _ := h
    exact ⟨rfl, rfl, rfl⟩
  | default value =>
    obtain ⟨_, rfl⟩ := h
    exact ⟨rfl, rfl, rfl⟩
  | references key =>
    obtain ⟨_, rfl⟩ := h
    exact ⟨rfl, rfl, rfl⟩

end Clause

/-- Tests that agree on related elements agree on related lists. -/
theorem any_eq_of_forall₂ {α β : Type} {R : α → β → Prop} {p : α → Bool} {q : β → Bool} {xs : List α}
    {ys : List β} (h : List.Forall₂ R xs ys) (hR : ∀ x y, R x y → p x = q y) :
    xs.any p = ys.any q := by
  induction h with
  | nil => rfl
  | cons hxy _ ih => rw [List.any_cons, List.any_cons, hR _ _ hxy, ih]

/-- What related elements are mapped to is the same for related lists. -/
theorem filterMap_eq_of_forall₂ {α β γ : Type} {R : α → β → Prop} {f : α → Option γ}
    {g : β → Option γ} {xs : List α} {ys : List β} (h : List.Forall₂ R xs ys)
    (hR : ∀ x y, R x y → f x = g y) : xs.filterMap f = ys.filterMap g := by
  induction h with
  | nil => rfl
  | cons hxy _ ih => rw [List.filterMap_cons, List.filterMap_cons, hR _ _ hxy, ih]

/-- An element of the second list is related to one of the first. -/
theorem exists_of_mem_right {α β : Type} {R : α → β → Prop} {xs : List α} {ys : List β} {y : β}
    (h : List.Forall₂ R xs ys) (hy : y ∈ ys) : ∃ x ∈ xs, R x y := by
  induction h with
  | nil => cases hy
  | cons hxy _ ih =>
    rcases List.mem_cons.1 hy with rfl | hy
    · exact ⟨_, List.mem_cons_self, hxy⟩
    · obtain ⟨x, hx, hR⟩ := ih hy
      exact ⟨x, List.mem_cons_of_mem _ hx, hR⟩

/-- An element of the first list is related to one of the second. -/
theorem exists_of_mem_left {α β : Type} {R : α → β → Prop} {xs : List α} {ys : List β} {x : α}
    (h : List.Forall₂ R xs ys) (hx : x ∈ xs) : ∃ y ∈ ys, R x y :=
  exists_of_mem_right (R := flip R) h.flip hx

namespace Column.Makes

variable {column : Column} {made : ColumnDefinition}

/-- A column is never empty if that is declared. -/
theorem isNonNull (h : column.Makes made) : made.isNonNull = column.nonNull := by
  have hany : made.isNonNull = column.clauses.any (·.isNonNull) :=
    (any_eq_of_forall₂ h.rules fun _ _ hrule => (hrule.facts made).1.symm).symm
  rw [hany]
  obtain ⟨name, type, primaryKey, nonNull, unique, default, foreignKey⟩ := column
  cases primaryKey <;> cases nonNull <;> cases unique <;> cases default <;> cases foreignKey <;> rfl

/-- No column that is made is computed. -/
theorem isComputed (h : column.Makes made) : made.isComputed = false := by
  have hany : column.clauses.any (fun _ => false) = made.isComputed :=
    any_eq_of_forall₂ h.rules fun _ _ hrule => (hrule.facts made).2.1.symm
  rw [← hany]
  simp

/-- The keys that the rules of a column declare. -/
theorem keys (h : column.Makes made) : made.rules.filterMap (TableDefinition.columnKey? made) =
    column.clauses.filterMap (Clause.key? column.name) := by
  rw [← h.name]
  exact (filterMap_eq_of_forall₂ h.rules fun _ _ hrule => (hrule.facts made).2.2.symm).symm

end Column.Makes

/-! ### Keys -/

/-- The key that a declared column is. -/
def Column.declaredKey (column : Column) : DeclaredKey :=
  ⟨true, true, false, [⟨.name column.name .other, false⟩]⟩

/-- A column declares a primary key if it says so. -/
theorem Column.filter_keys (column : Column) :
    (column.clauses.filterMap (Clause.key? column.name)).filter (·.isPrimary) =
      if column.primaryKey then [column.declaredKey] else [] := by
  obtain ⟨name, type, primaryKey, nonNull, unique, default, foreignKey⟩ := column
  cases primaryKey <;> cases nonNull <;> cases unique <;> cases default <;> cases foreignKey <;> rfl

namespace Table.Makes

/-- **The primary keys are the columns that are declared so.** -/
theorem filter_keys (h : table.Makes definition) : definition.keys.filter (·.isPrimary) =
    (table.columns.filter (·.primaryKey)).map Column.declaredKey := by
  have hrules : (definition.rules.filterMap TableDefinition.ruleKey?).filter (·.isPrimary) = [] := by
    rw [List.filter_eq_nil_iff]
    intro key hkey
    obtain ⟨rule, hrule, hkey⟩ := List.mem_filterMap.1 hkey
    obtain ⟨terms, rfl⟩ := h.rules rule hrule
    rw [← Option.some.inj hkey]
    simp
  have hcolumns {columns : List Column} {definitions : List ColumnDefinition}
      (hmakes : List.Forall₂ Column.Makes columns definitions) :
      (definitions.flatMap fun column =>
        column.rules.filterMap (TableDefinition.columnKey? column)).filter (·.isPrimary) =
        (columns.filter (·.primaryKey)).map Column.declaredKey := by
    induction hmakes with
    | nil => rfl
    | @cons column _ _ _ hmade _ ih =>
      rw [List.flatMap_cons, List.filter_append, hmade.keys, column.filter_keys, ih]
      cases hkey : column.primaryKey <;> simp [hkey]
  rw [TableDefinition.keys, List.filter_append, hrules, List.append_nil, hcolumns h.columns]

/-- No key counts. -/
theorem isCounting (h : table.Makes definition) : definition.isCounting = false := by
  rw [TableDefinition.isCounting, List.any_eq_false]
  intro key hkey
  rcases List.mem_append.1 hkey with hkey | hkey
  · obtain ⟨made, hmade, hkey⟩ := List.mem_flatMap.1 hkey
    obtain ⟨column, -, hmakes⟩ := exists_of_mem_right h.columns hmade
    rw [hmakes.keys] at hkey
    obtain ⟨clause, -, hclause⟩ := List.mem_filterMap.1 hkey
    cases clause <;> cases hclause <;> simp
  · obtain ⟨rule, hrule, hkey⟩ := List.mem_filterMap.1 hkey
    obtain ⟨terms, rfl⟩ := h.rules rule hrule
    rw [← Option.some.inj hkey]
    simp

/-! ### The primary key -/

/-- The columns have the declared names. -/
theorem columnNames (h : table.Makes definition) :
    definition.columnNames = table.columns.map (·.name) := by
  have hnames {columns : List Column} {definitions : List ColumnDefinition}
      (hmakes : List.Forall₂ Column.Makes columns definitions) :
      definitions.map (·.name) = columns.map (·.name) := by
    induction hmakes with
    | nil => rfl
    | cons hmade _ ih => rw [List.map_cons, List.map_cons, hmade.name, ih]
  exact hnames h.columns

/-- The column that a declared key names, if the database finds one, is the declared one. -/
theorem eq_of_namedColumn? (hnames : table.IsOverIdentifiers) (h : table.Makes definition)
    {column : Column} (hcolumn : column ∈ table.columns) {term : Term}
    (hterm : term ∈ column.declaredKey.terms) {found : ColumnDefinition}
    (hfound : definition.namedColumn? term = some found) : found.name = column.name := by
  obtain rfl := List.mem_singleton.1 hterm
  have hfound : definition.columns.find? (sameName ·.name column.name) = some found := hfound
  have hsame := List.find?_some hfound
  obtain ⟨other, hother, hmakes⟩ := exists_of_mem_right h.columns (List.mem_of_find?_eq_some hfound)
  rw [hmakes.name] at hsame ⊢
  exact ((hnames.columns other hother).1.sameName_iff (hnames.columns column hcolumn).1).1 hsame

/-- A declared key that is the number of the row has the name of its column. -/
theorem eq_of_numberColumn? (hnames : table.IsOverIdentifiers) (h : table.Makes definition)
    {column : Column} (hcolumn : column ∈ table.columns) {name : String}
    (hname : definition.numberColumn? column.declaredKey = some name) : name = column.name := by
  rw [TableDefinition.numberColumn?, Column.declaredKey] at hname
  dsimp only at hname
  split at hname
  · next found hfound =>
    split at hname
    · rw [← Option.some.inj hname, h.eq_of_namedColumn? hnames hcolumn List.mem_cons_self hfound]
    · cases hname
  · cases hname

/-- A declared key has its column. -/
theorem eq_of_keyColumns? (hnames : table.IsOverIdentifiers) (h : table.Makes definition)
    {column : Column} (hcolumn : column ∈ table.columns) {columns : List KeyColumn}
    (hcolumns : definition.keyColumns? column.declaredKey = some columns) :
    columns.map (·.1) = [column.name] := by
  obtain ⟨first, hfirst, hcolumns⟩ := Option.bind_eq_some_iff.1 hcolumns
  obtain rfl : [first] = columns := Option.some.inj hcolumns
  rw [TableDefinition.keyColumn?] at hfirst
  split at hfirst
  · next found hfound =>
    dsimp only at hfirst
    split at hfirst
    · rw [← Option.some.inj hfirst, List.map_singleton,
        h.eq_of_namedColumn? hnames hcolumn List.mem_cons_self hfound]
    · cases hfirst
  · cases hfirst

end Table.Makes

/-! ### What is made -/

/-- The key that is the number of the row. -/
def numberName (definition : TableDefinition) : Option String :=
  (definition.keys.filter (·.isPrimary)).findSome? definition.numberColumn?

/-- The keys that get an index. -/
def indexedKeys (definition : TableDefinition) : List DeclaredKey :=
  definition.keys.filter fun key => !(key.isPrimary && (numberName definition).isSome)

/-- The names of the columns of the primary key, given the columns of the keys that get an index. -/
def primaryNames (definition : TableDefinition) (columns : List (List KeyColumn)) : List String :=
  (numberName definition).toList ++
    (((((indexedKeys definition).zip columns).find? (·.1.isPrimary)).map (·.2)).getD []).map (·.1)

/-- What is known of a table that a definition makes. -/
theorem exists_of_live? {live : LiveTable} (h : definition.live? = some live) :
    ∃ columns, (indexedKeys definition).mapM definition.keyColumns? = some columns ∧
      definition.isPossible ∧ (definition.keys.filter (·.isPrimary)).length ≤ 1 ∧
      live.name = definition.name ∧
      live.columns = definition.columns.map (TableDefinition.liveColumn
        (primaryNames definition columns)
        (!definition.hasRowId || (definition.isStrict && (numberName definition).isNone))) ∧
      ∀ index ∈ live.indices, ∃ count, index ∈ definition.keyIndices count := by
  obtain ⟨columns, hcolumns, h⟩ := Option.bind_eq_some_iff.1 h
  obtain ⟨_, hpossible, h⟩ := Option.bind_eq_some_iff.1 h
  obtain ⟨_, -, h⟩ := Option.bind_eq_some_iff.1 h
  obtain ⟨_, -, h⟩ := Option.bind_eq_some_iff.1 h
  obtain ⟨_, -, h⟩ := Option.bind_eq_some_iff.1 h
  obtain rfl := Option.some.inj h
  obtain ⟨hpossible, hprimaries⟩ := Bool.and_eq_true_iff.1 ((Option.guard_eq_some' _).1 hpossible)
  refine ⟨columns, hcolumns, hpossible, of_decide_eq_true hprimaries, rfl, rfl, fun index hindex => ?_⟩
  obtain ⟨pair, hpair, rfl⟩ := List.mem_map.1 hindex
  obtain ⟨hpair, -⟩ := List.mem_filter.1 hpair
  exact ⟨_, (List.of_mem_zip hpair).2⟩

/-- What a list is mapped to, if that can be done, is related to it. -/
theorem forall₂_of_mapM {α β : Type} {f : α → Option β} {xs : List α} {ys : List β}
    (h : xs.mapM f = some ys) : List.Forall₂ (fun x y => f x = some y) xs ys := by
  induction xs generalizing ys with
  | nil =>
    obtain rfl : [] = ys := Option.some.inj h
    exact .nil
  | cons x xs ih =>
    rw [List.mapM_cons] at h
    obtain ⟨y, hy, h⟩ := Option.bind_eq_some_iff.1 h
    obtain ⟨others, hothers, h⟩ := Option.bind_eq_some_iff.1 h
    obtain rfl : y :: others = ys := Option.some.inj h
    exact .cons hy (ih hothers)

/-- If the list has an element of some kind, the first such pair is one of related elements. -/
theorem exists_of_find?_zip {α β : Type} {R : α → β → Prop} {p : α → Bool} {xs : List α} {ys : List β}
    (h : List.Forall₂ R xs ys) {x : α} (hx : x ∈ xs) (hp : p x) :
    ∃ pair, (xs.zip ys).find? (fun pair => p pair.1) = some pair ∧ pair.1 ∈ xs ∧ p pair.1 ∧
      R pair.1 pair.2 := by
  induction h with
  | nil => cases hx
  | @cons first other xs ys hR _ ih =>
    rw [List.zip_cons_cons]
    by_cases hfirst : p first
    · exact ⟨(first, other), List.find?_cons_of_pos hfirst, List.mem_cons_self, hfirst, hR⟩
    · rcases List.mem_cons.1 hx with rfl | hx
      · exact absurd hp hfirst
      · obtain ⟨pair, hfind, hmem, hpair⟩ := ih hx
        refine ⟨pair, ?_, List.mem_cons_of_mem _ hmem, hpair⟩
        rw [List.find?_cons_of_neg (by exact hfirst), hfind]

/-- Without an element of some kind there is no such pair. -/
theorem find?_zip_eq_none {α β : Type} {p : α → Bool} {xs : List α} {ys : List β}
    (h : ∀ x ∈ xs, ¬p x) : (xs.zip ys).find? (fun pair => p pair.1) = none :=
  List.find?_eq_none.2 fun _ hpair => h _ (List.of_mem_zip hpair).1

namespace Table.Makes

/-- The primary key consists of the columns that are declared so. -/
theorem primaryNames_eq (hnames : table.IsOverIdentifiers) (h : table.Makes definition)
    (hprimaries : (definition.keys.filter (·.isPrimary)).length ≤ 1)
    {columns : List (List KeyColumn)}
    (hcolumns : (indexedKeys definition).mapM definition.keyColumns? = some columns) :
    primaryNames definition columns =
      (table.columns.filter (·.primaryKey)).map (·.name) := by
  have hkeys := h.filter_keys
  have hmem (column : Column) : column ∈ table.columns.filter (·.primaryKey) → column ∈ table.columns :=
    fun hcolumn => (List.mem_filter.1 hcolumn).1
  have hdeclared {key : DeclaredKey} (hkey : key ∈ definition.keys) (hprimary : key.isPrimary) :
      key ∈ (table.columns.filter (·.primaryKey)).map Column.declaredKey :=
    hkeys ▸ List.mem_filter.2 ⟨hkey, hprimary⟩
  rw [hkeys, List.length_map] at hprimaries
  generalize table.columns.filter (·.primaryKey) = keys at hkeys hmem hdeclared hprimaries ⊢
  match keys with
  | [] =>
    have hnumber : numberName definition = none := by
      rw [numberName, hkeys]
      rfl
    have hnone : ∀ key ∈ indexedKeys definition, ¬key.isPrimary := fun key hkey hprimary =>
      List.not_mem_nil (hdeclared (List.mem_filter.1 hkey).1 hprimary)
    rw [primaryNames, hnumber, find?_zip_eq_none hnone]
    rfl
  | [column] =>
    have hcolumn := hmem column List.mem_cons_self
    cases hnumber : numberName definition with
    | some name =>
      have hnone : ∀ key ∈ indexedKeys definition, ¬key.isPrimary := fun key hkey hprimary => by
        have hother := (List.mem_filter.1 hkey).2
        rw [hprimary, hnumber] at hother
        cases hother
      have hname : definition.numberColumn? column.declaredKey = some name := by
        rwa [numberName, hkeys, List.map_singleton, List.findSome?_singleton] at hnumber
      rw [primaryNames, hnumber, find?_zip_eq_none hnone, h.eq_of_numberColumn? hnames hcolumn hname]
      rfl
    | none =>
      have hmem : column.declaredKey ∈ indexedKeys definition := by
        have hkey : column.declaredKey ∈ definition.keys.filter (·.isPrimary) := by
          rw [hkeys]
          exact List.mem_cons_self
        refine List.mem_filter.2 ⟨(List.mem_filter.1 hkey).1, ?_⟩
        rw [hnumber]
        rfl
      obtain ⟨⟨key, columns⟩, hfind, hindexed, hprimary, hcolumns⟩ :=
        exists_of_find?_zip (p := (·.isPrimary)) (forall₂_of_mapM hcolumns) hmem rfl
      obtain rfl : key = column.declaredKey :=
        List.mem_singleton.1 (hdeclared (List.mem_filter.1 hindexed).1 hprimary)
      rw [primaryNames, hnumber, hfind]
      exact h.eq_of_keyColumns? hnames hcolumn hcolumns

end Table.Makes

/-! ### Columns that exist -/

/-- A name that stands in the list twice is noticed. -/
theorem nodup_of_hasRepeated {names : List String} (h : hasRepeated names = false) : names.Nodup := by
  induction names with
  | nil => exact List.nodup_nil
  | cons name names ih =>
    obtain ⟨hname, hnames⟩ := Bool.or_eq_false_iff.1 h
    refine List.nodup_cons.2 ⟨fun hmem => ?_, ih hnames⟩
    have hfound : isOneOf names name = true := List.any_eq_true.2 ⟨name, hmem, sameName_self name⟩
    rw [hname] at hfound
    cases hfound

/-- The columns of a table that can be made have names of their own. -/
theorem nodup_columnNames (h : definition.isPossible) : definition.columnNames.Nodup := by
  simp only [TableDefinition.isPossible, Bool.and_eq_true, Bool.not_eq_true'] at h
  obtain ⟨⟨⟨⟨⟨⟨⟨hnames, -⟩, -⟩, -⟩, -⟩, -⟩, -⟩, -⟩ := h
  exact nodup_of_hasRepeated hnames

/-- The types of columns are reported as they are declared. -/
theorem reportedType_declared (type : ColumnType) : reportedType type.declared = type.declared := by
  cases type <;> decide +kernel

/-- A column of the primary key, if this has at most one, is the first of the key. -/
theorem keyPosition_eq_one_iff {names : List String} (hnames : names.length ≤ 1)
    (made : ColumnDefinition) :
    (TableDefinition.liveColumn names false made).keyPosition = 1 ↔ made.name ∈ names := by
  match names with
  | [] => exact iff_of_false (by rintro ⟨⟩) List.not_mem_nil
  | [name] =>
    rw [List.mem_singleton, TableDefinition.liveColumn, List.findIdx?_singleton]
    by_cases hname : name = made.name
    · simp [hname]
    · simp [hname, Ne.symm hname]

/-- A column that is made for a declared one has what is declared. -/
theorem Column.Makes.isShownBy {column : Column} {made : ColumnDefinition} (h : column.Makes made)
    {names : List String} (hnames : names.length ≤ 1)
    (hkey : column.name ∈ names ↔ column.primaryKey) :
    column.IsShownBy (TableDefinition.liveColumn names false made) where
  name := h.name
  type := by
    rw [TableDefinition.liveColumn, ColumnDefinition.liveType, h.type, reportedType_declared]
  nonNull := by
    rw [TableDefinition.liveColumn, Bool.false_and, Bool.or_false, h.isNonNull]
  key := by rw [keyPosition_eq_one_iff hnames, h.name, hkey]

/-- A column is in the primary key if it is declared so, since no other has its name. -/
theorem name_mem_keys_iff {columns : List Column} (hnodup : (columns.map (·.name)).Nodup)
    {column : Column} (hcolumn : column ∈ columns) :
    column.name ∈ (columns.filter (·.primaryKey)).map (·.name) ↔ column.primaryKey := by
  constructor
  · intro hname
    obtain ⟨other, hother, hsame⟩ := List.mem_map.1 hname
    obtain ⟨hother, hkey⟩ := List.mem_filter.1 hother
    rwa [← List.inj_on_of_nodup_map hnodup hother hcolumn hsame]
  · exact fun hkey => List.mem_map_of_mem (List.mem_filter.2 ⟨hcolumn, hkey⟩)

/-- **A definition that says what a table declares makes a table that shows the declared columns.** -/
theorem Table.Makes.forall₂_isShownBy (hnames : table.IsOverIdentifiers) (h : table.Makes definition)
    {live : LiveTable} (hlive : definition.live? = some live) :
    List.Forall₂ Column.IsShownBy table.columns live.shownColumns := by
  obtain ⟨columns, hcolumns, hpossible, hprimaries, -, hlive, -⟩ := exists_of_live? hlive
  have hbinding : (!definition.hasRowId || (definition.isStrict && (numberName definition).isNone)) =
      false := by
    rw [TableDefinition.hasRowId, TableDefinition.isStrict, h.options]
    rfl
  have hprimary := h.primaryNames_eq hnames hprimaries hcolumns
  have hlength : ((table.columns.filter (·.primaryKey)).map (·.name)).length ≤ 1 := by
    rwa [h.filter_keys, List.length_map, ← List.length_map (·.name)] at hprimaries
  have hnodup : (table.columns.map (·.name)).Nodup := h.columnNames ▸ nodup_columnNames hpossible
  have hkeys (column : Column) (hcolumn : column ∈ table.columns) :=
    name_mem_keys_iff hnodup hcolumn
  rw [LiveTable.shownColumns, hlive, hbinding, hprimary]
  have hmakes := h.columns
  generalize (table.columns.filter (·.primaryKey)).map (·.name) = names at hlength hkeys
  generalize table.columns = declared at hkeys hmakes
  generalize definition.columns = definitions at hmakes
  clear hlive hpossible
  induction hmakes with
  | nil => exact .nil
  | @cons column made _ _ hmade _ ih =>
    have hshown : (TableDefinition.liveColumn names false made).isComputed = false := hmade.isComputed
    rw [List.map_cons, List.filter_cons_of_pos (by rw [hshown]; rfl)]
    exact .cons (hmade.isShownBy hlength (hkeys column List.mem_cons_self))
      (ih fun other hother => hkeys other (List.mem_cons_of_mem _ hother))

/-! ### All tables -/

/-- The table that is made has the name of its definition. -/
theorem name_of_live? {live : LiveTable} (hlive : definition.live? = some live) :
    live.name = definition.name := by
  obtain ⟨_, -, -, -, hname, -⟩ := exists_of_live? hlive
  exact hname

/-- **A table that is made shows a column.** -/
theorem shownColumns_ne_nil {live : LiveTable} (hlive : definition.live? = some live) :
    live.shownColumns ≠ [] := by
  obtain ⟨_, -, hpossible, -, -, hlive, -⟩ := exists_of_live? hlive
  simp only [TableDefinition.isPossible, Bool.and_eq_true] at hpossible
  obtain ⟨made, hmade, hshown⟩ := List.any_eq_true.1 hpossible.1.1.1.1.1.2
  rw [LiveTable.shownColumns, hlive]
  exact List.ne_nil_of_mem (List.mem_filter.2 ⟨List.mem_map_of_mem hmade, hshown⟩)

/-- The database itself names the indices that a table has from its definition. -/
theorem isInternal_of_mem_indices {live : LiveTable} (hlive : definition.live? = some live)
    {index : String} (hindex : index ∈ live.indices) : isInternal index := by
  obtain ⟨_, -, -, -, -, -, hindices⟩ := exists_of_live? hlive
  obtain ⟨count, hcount⟩ := hindices index hindex
  obtain ⟨n, -, rfl⟩ := List.mem_map.1 hcount
  have hstart : "sqlite_autoindex_".toList.map Char.toLower =
      "sqlite_".toList ++ "autoindex_".toList := by decide
  rw [isInternal, folded, String.toList_append, String.toList_append, String.toList_append,
    List.map_append, List.map_append, List.map_append, hstart, List.isPrefixOf_iff_prefix]
  simp only [List.append_assoc]
  exact List.prefix_append _ _

end TodoLedger.Schema
