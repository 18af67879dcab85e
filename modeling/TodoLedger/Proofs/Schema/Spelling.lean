import TodoLedger.Proofs.Sql.Defaults
import TodoLedger.Schema.Version

/-!
# The tokens of the statements for a schema

* `IsIdentifier name`: small letters, digits and underscores, and not kept for the database.
* `Versioned.IsOverIdentifiers schema`: all names are identifiers. `Versioned.IsPlain schema`: no
  column is called `constraint`, and every default is one value.
* The statement that creates a table starts with its name (`exists_tokens_createSql`), and **all
  tokens of the statement are known if the table is plain** (`tokens_createSql`).
-/

namespace TodoLedger.Schema

open Sql

/-! ### Names -/

/-- A name of small letters, digits and underscores that is not kept for the database itself. -/
structure IsIdentifier (name : String) : Prop where
  first : ∃ c ∈ name.toList.head?, c.isLower ∨ c = '_'
  inner : ∀ c ∈ name.toList, c.isLower ∨ c.isDigit ∨ c = '_'
  own : isInternal name = false

instance (name : String) : Decidable (IsIdentifier name) :=
  decidable_of_iff ((name.toList.head?.any fun c => c.isLower ∨ c = '_') ∧
    (name.toList.all fun c => c.isLower ∨ c.isDigit ∨ c = '_') ∧ isInternal name = false) <| by
    simp only [Option.any_eq_true, List.all_eq_true, decide_eq_true_eq]
    exact ⟨fun h => ⟨h.1, h.2.1, h.2.2⟩, fun h => ⟨h.first, h.inner, h.own⟩⟩

variable {name : String}

namespace IsIdentifier

/-- An identifier is a word. -/
theorem isWord (h : IsIdentifier name) : IsWord name.toList where
  first := by
    obtain ⟨c, hc, hfirst⟩ := h.first
    exact ⟨c, hc, hfirst.imp_left fun hlower => isAlpha_iff.2 (.inr hlower)⟩
  inner := by
    intro c hc
    rcases h.inner c hc with hlower | hdigit | rfl
    · simp [isNameRest, isNameStart, isAlpha_iff.2 (.inr hlower)]
    · simp [isNameRest, hdigit]
    · rfl

/-- A name of small letters is compared as it is. -/
theorem folded_eq (h : IsIdentifier name) : folded name = name.toList := by
  refine (List.map_congr_left fun c hc => ?_).trans (List.map_id _)
  refine toLower_eq_self fun hupper => ?_
  rw [isUpper_iff] at hupper
  rcases h.inner c hc with hlower | hdigit | rfl
  · rw [isLower_iff] at hlower
    omega
  · rw [isDigit_iff] at hdigit
    omega
  · exact absurd hupper (by decide)

/-- No identifier holds the character that ends a statement. -/
theorem nul_not_mem (h : IsIdentifier name) : '\x00' ∉ name.toList := fun hmem => by
  rcases h.inner _ hmem with h | h | h
  · cases h
  · cases h
  · cases h

end IsIdentifier

/-- Names of small letters are the same if they are equal. -/
theorem IsIdentifier.sameName_iff {other : String} (h : IsIdentifier name)
    (hother : IsIdentifier other) : sameName name other = true ↔ name = other := by
  rw [sameName, decide_eq_true_eq, h.folded_eq, hother.folded_eq, String.toList_inj]

/-- The names in the declaration of the column are identifiers. -/
def Column.IsOverIdentifiers (column : Column) : Prop :=
  IsIdentifier column.name ∧
    ∀ key ∈ column.foreignKey, IsIdentifier key.table ∧ IsIdentifier key.column

/-- All names of the table are identifiers. What an index covers is left open. -/
structure Table.IsOverIdentifiers (table : Table) : Prop where
  name : IsIdentifier table.name
  columns : ∀ column ∈ table.columns, column.IsOverIdentifiers
  indices : ∀ index ∈ table.indices, IsIdentifier index.name
  unique : ∀ names ∈ table.unique, ∀ name ∈ names, IsIdentifier name

/-- All names of the schema are identifiers. -/
def Versioned.IsOverIdentifiers (schema : Versioned) : Prop :=
  ∀ table ∈ schema.tables, table.IsOverIdentifiers

/-- The column is not called `constraint`, which is read as the start of a rule, and its default is
one value, so that nothing of it is read as another rule. -/
def Column.IsPlain (column : Column) : Prop :=
  column.name ≠ "constraint" ∧ ∀ value ∈ column.default, IsOneValue value

/-- All columns of the schema are plain. -/
def Versioned.IsPlain (schema : Versioned) : Prop :=
  ∀ table ∈ schema.tables, ∀ column ∈ table.columns, column.IsPlain

instance (column : Column) : Decidable column.IsOverIdentifiers :=
  inferInstanceAs (Decidable (_ ∧ _))

instance (table : Table) : Decidable table.IsOverIdentifiers :=
  decidable_of_iff (IsIdentifier table.name ∧
    (∀ column ∈ table.columns, column.IsOverIdentifiers) ∧
    (∀ index ∈ table.indices, IsIdentifier index.name) ∧
    ∀ names ∈ table.unique, ∀ name ∈ names, IsIdentifier name)
    ⟨fun h => ⟨h.1, h.2.1, h.2.2.1, h.2.2.2⟩, fun h => ⟨h.name, h.columns, h.indices, h.unique⟩⟩

instance (schema : Versioned) : Decidable schema.IsOverIdentifiers :=
  inferInstanceAs (Decidable (∀ table ∈ schema.tables, table.IsOverIdentifiers))

instance (column : Column) : Decidable column.IsPlain :=
  inferInstanceAs (Decidable (_ ∧ _))

instance (schema : Versioned) : Decidable schema.IsPlain :=
  inferInstanceAs (Decidable (∀ table ∈ schema.tables, ∀ column ∈ table.columns, column.IsPlain))

/-! ### The clauses of a column -/

/-- A clause behind the type of a column. -/
inductive Clause where
  | primaryKey
  | nonNull
  | unique
  | default (value : String)
  | references (key : ForeignKey)

/-- The words for what happens on a deletion. -/
def OnDelete.words : OnDelete → List (List Char)
  | .noAction => ["NO".toList, "ACTION".toList]
  | .restrict => ["RESTRICT".toList]
  | .setNull => ["SET".toList, "NULL".toList]
  | .cascade => ["CASCADE".toList]

namespace Clause

/-- The clause as it is written, behind a blank. -/
def sql : Clause → List Char
  | primaryKey => spaced ["PRIMARY".toList, "KEY".toList]
  | nonNull => spaced ["NOT".toList, "NULL".toList]
  | unique => spaced ["UNIQUE".toList]
  | default value => spaced ["DEFAULT".toList] ++ ' ' :: value.toList
  | references key =>
    spaced ["REFERENCES".toList, key.table.toList] ++
      '(' :: (key.column.toList ++ ')' :: spaced ("ON".toList :: "DELETE".toList :: key.onDelete.words))

/-- The tokens of the clause. -/
def tokens : Clause → List Token
  | primaryKey => [.word "PRIMARY".toList, .word "KEY".toList]
  | nonNull => [.word "NOT".toList, .word "NULL".toList]
  | unique => [.word "UNIQUE".toList]
  | default value => .word "DEFAULT".toList :: defaultTokens value
  | references key =>
    [.word "REFERENCES".toList, .word key.table.toList, .opening, .word key.column.toList, .closing,
      .word "ON".toList, .word "DELETE".toList] ++ key.onDelete.words.map .word

/-- The names in the clause are identifiers, and its default is one value. -/
def IsPlain : Clause → Prop
  | default value => IsOneValue value
  | references key => IsIdentifier key.table ∧ IsIdentifier key.column
  | _ => True

/-- A reference is written like a foreign key. -/
theorem references_sql (key : ForeignKey) : (references key).sql = key.sql := by
  have hdelete : spaced key.onDelete.words = ' ' :: key.onDelete.sql := by
    cases key.onDelete <;> rfl
  change spaced ["REFERENCES".toList, key.table.toList] ++
      '(' :: (key.column.toList ++ ')' :: (" ON DELETE".toList ++ spaced key.onDelete.words)) =
    (' ' :: "REFERENCES".toList ++ [' ']) ++ key.table.toList ++ '(' :: key.column.toList ++
      (')' :: " ON DELETE".toList ++ [' ']) ++ key.onDelete.sql
  generalize "REFERENCES".toList = first
  generalize " ON DELETE".toList = second
  rw [hdelete]
  simp [spaced]

/-- No plain clause holds the character that ends a statement. -/
theorem nul_not_mem_sql {clause : Clause} (h : clause.IsPlain) : '\x00' ∉ clause.sql := by
  cases clause with
  | primaryKey => decide
  | nonNull => decide
  | unique => decide
  | default value =>
    have hvalue : '\x00' ∉ ' ' :: value.toList := by simpa using h.1
    exact List.not_mem_append (by decide) hvalue
  | references key =>
    have hwords : '\x00' ∉ spaced ("ON".toList :: "DELETE".toList :: key.onDelete.words) := by
      cases key.onDelete <;> decide
    have htable : '\x00' ∉ spaced ["REFERENCES".toList, key.table.toList] := by
      simp [spaced, h.1.nul_not_mem]
    have hcolumn : '\x00' ∉ key.column.toList ++ [')'] := by
      simpa using h.2.nul_not_mem
    have hopening : '\x00' ∉ '(' :: (key.column.toList ++ [')']) :=
      List.not_mem_cons_of_ne_of_not_mem (by decide) hcolumn
    have hbrackets := List.not_mem_append hopening hwords
    rw [List.cons_append, List.append_assoc] at hbrackets
    exact List.not_mem_append htable hbrackets

/-- A clause starts with a blank. -/
theorem head?_flatMap_sql (clause : Clause) (clauses : List Clause) :
    ((clause :: clauses).flatMap sql).head?.any isBreak := by
  cases clause <;> rfl

/-- A plain clause is read as its tokens. -/
theorem spells {clause : Clause} (h : clause.IsPlain) : Spells clause.sql clause.tokens := by
  cases clause with
  | primaryKey => exact spells_spaced (by decide)
  | nonNull => exact spells_spaced (by decide)
  | unique => exact spells_spaced (by decide)
  | default value => exact (spells_spaced (by decide)).append (IsOneValue.exists_tokens h).1 rfl
  | references key =>
    have hdeletion : Spells (spaced ("ON".toList :: "DELETE".toList :: key.onDelete.words)) _ :=
      spells_spaced (by cases key.onDelete <;> decide)
    have hcolumn := (spells_word h.2.isWord).append (hdeletion.mark (m := ')') (by decide)) rfl
    have htable : Spells (spaced ["REFERENCES".toList, key.table.toList]) _ :=
      spells_spaced (by simpa using ⟨by decide, h.1.isWord⟩)
    exact htable.append (hcolumn.mark (m := '(') (by decide)) rfl

/-- Clauses one after the other are read as their tokens. -/
theorem spells_flatMap {clauses : List Clause} (h : ∀ clause ∈ clauses, clause.IsPlain) :
    Spells (clauses.flatMap sql) (clauses.flatMap tokens) := by
  induction clauses with
  | nil => exact spells_nil
  | cons clause clauses ih =>
    have hfirst := spells (h clause List.mem_cons_self)
    have hlater := ih fun other hother => h other (List.mem_cons_of_mem _ hother)
    cases clauses with
    | nil => simpa using hfirst
    | cons next clauses => exact hfirst.append hlater (next.head?_flatMap_sql clauses)

end Clause

namespace Column

/-- The clauses of a column, in the order in which they are written. -/
def clauses (column : Column) : List Clause :=
  (if column.primaryKey then [.primaryKey] else []) ++ (if column.nonNull then [.nonNull] else []) ++
    (if column.unique then [.unique] else []) ++ (column.default.map .default).toList ++
    (column.foreignKey.map .references).toList

/-- **The definition of a column is its name, its type and its clauses.** -/
theorem sql_eq (column : Column) :
    column.sql = column.name.toList ++ spaced [column.type.declared.toList] ++
      column.clauses.flatMap Clause.sql := by
  have hclause (flag : Bool) (clause : Clause) (text : String) (h : clause.sql = text.toList) :
      Schema.clause flag text = (if flag then [clause] else []).flatMap Clause.sql := by
    cases flag with
    | true => simpa [Schema.clause] using h.symm
    | false => rfl
  rw [sql, hclause column.primaryKey .primaryKey _ rfl, hclause column.nonNull .nonNull _ rfl,
    hclause column.unique .unique _ rfl, clauses]
  simp only [List.flatMap_append, ← List.append_assoc]
  obtain ⟨name, type, primaryKey, nonNull, unique, default, foreignKey⟩ := column
  congr 1
  · congr 1
    · simp [spaced]
    · cases default with
      | some value => exact (List.append_nil (" DEFAULT ".toList ++ value.toList)).symm
      | none => rfl
  · cases foreignKey with
    | some key => exact (Clause.references_sql key).symm.trans (List.append_nil _).symm
    | none => rfl

/-- The tokens of the column: its name, its type and its clauses. -/
def tokens (column : Column) : List Token :=
  .word column.name.toList :: .word column.type.declared.toList ::
    column.clauses.flatMap Clause.tokens

/-- The clauses of a plain column are plain. -/
theorem isPlain_of_mem_clauses {column : Column} (hnames : column.IsOverIdentifiers)
    (hplain : column.IsPlain) : ∀ clause ∈ column.clauses, clause.IsPlain := by
  intro clause hclause
  cases clause with
  | primaryKey => trivial
  | nonNull => trivial
  | unique => trivial
  | default value => exact hplain.2 value (by simpa [clauses] using hclause)
  | references key => exact hnames.2 key (by simpa [clauses] using hclause)

/-- A plain column is read as its tokens. -/
theorem spells {column : Column} (hnames : column.IsOverIdentifiers) (hplain : column.IsPlain) :
    Spells column.sql column.tokens := by
  have hclauses := Clause.spells_flatMap (isPlain_of_mem_clauses hnames hplain)
  have htype : Spells (spaced [column.type.declared.toList]) [.word column.type.declared.toList] :=
    spells_spaced (by cases column.type <;> decide)
  have hname := (spells_word hnames.1.isWord).append htype rfl
  rw [sql_eq, tokens]
  cases hcolumn : column.clauses with
  | nil => simpa using hname
  | cons clause clauses =>
    rw [hcolumn] at hclauses
    exact hname.append hclauses (clause.head?_flatMap_sql clauses)

/-- No plain column holds the character that ends a statement. -/
theorem nul_not_mem_sql {column : Column} (hnames : column.IsOverIdentifiers)
    (hplain : column.IsPlain) : '\x00' ∉ column.sql := by
  have htype : '\x00' ∉ column.type.declared.toList := by
    cases column.type <;> decide
  have hclauses : '\x00' ∉ column.clauses.flatMap Clause.sql := by
    rw [List.mem_flatMap]
    rintro ⟨clause, hclause, hmem⟩
    exact Clause.nul_not_mem_sql (isPlain_of_mem_clauses hnames hplain clause hclause) hmem
  rw [sql_eq]
  simp [spaced, hnames.1.nul_not_mem, htype] at hclauses ⊢
  exact hclauses

/-- A definition starts with a name, and not with a blank. -/
theorem head?_sql {column : Column} (hnames : column.IsOverIdentifiers) :
    column.sql.head?.any (!isBlank ·) := by
  have hname := hnames.1.isWord.head?_any
  rw [sql_eq]
  cases htext : column.name.toList with
  | nil => rw [htext] at hname; cases hname
  | cons c text => rw [htext] at hname; exact hname

end Column

/-! ### Tables -/

namespace Table

/-- The tokens of the clause for columns that are unique together. -/
def uniqueTokens (names : List String) : List Token :=
  .word "UNIQUE".toList :: .opening ::
    ([Token.comma].intercalate (names.map fun name => [.word name.toList]) ++ [.closing])

/-- The clause for columns that are unique together is read as its tokens. -/
theorem spells_uniqueSql {names : List String} (h : ∀ name ∈ names, IsIdentifier name) :
    Spells (uniqueSql names) (uniqueTokens names) := by
  have hforall : List.Forall₂ Spells (names.map String.toList)
      (names.map fun name => [Token.word name.toList]) := by
    rw [List.forall₂_map_left_iff, List.forall₂_map_right_iff, List.forall₂_same]
    exact fun name hname => spells_word (h name hname).isWord
  have hnames := spells_intercalate hforall
    (by simpa using fun name hname => (h name hname).isWord.head?_any)
  have hinner := hnames.append (spells_nil.mark (m := ')') (by decide)) rfl
  have hbrackets := (hinner.mark (m := '(') (by decide)).space rfl
  have hunique : Spells "UNIQUE".toList [.word "UNIQUE".toList] := spells_word (by decide)
  have htext : uniqueSql names =
      "UNIQUE".toList ++ ' ' :: '(' :: (commaList (names.map String.toList) ++ [')']) := rfl
  rw [htext]
  exact hunique.append hbrackets rfl

/-- The tokens of the statement that creates the table. -/
def tokens (table : Table) : List Token :=
  .word "CREATE".toList :: .word "TABLE".toList :: .word table.name.toList :: .opening ::
    ([Token.comma].intercalate (table.columns.map Column.tokens ++ table.unique.map uniqueTokens) ++
      [.closing, .sign [';']])

/-- What stands between the brackets of the statement. -/
def partsSql (table : Table) : List Char :=
  commaList (table.columns.map Column.sql ++ table.unique.map uniqueSql)

/-- The columns and clauses of a table are read as their tokens, with commas between them. -/
theorem spells_partsSql {table : Table} (hnames : table.IsOverIdentifiers)
    (hplain : ∀ column ∈ table.columns, column.IsPlain) :
    Spells table.partsSql
      ([Token.comma].intercalate
        (table.columns.map Column.tokens ++ table.unique.map uniqueTokens)) := by
  refine spells_intercalate (List.rel_append ?_ ?_) ?_
  · rw [List.forall₂_map_left_iff, List.forall₂_map_right_iff, List.forall₂_same]
    exact fun column hcolumn => Column.spells (hnames.columns column hcolumn) (hplain column hcolumn)
  · rw [List.forall₂_map_left_iff, List.forall₂_map_right_iff, List.forall₂_same]
    exact fun names hmem => spells_uniqueSql (hnames.unique names hmem)
  · intro part hpart
    rcases List.mem_append.1 hpart with hpart | hpart
    · obtain ⟨column, hcolumn, rfl⟩ := List.mem_map.1 hpart
      exact Column.head?_sql (hnames.columns column hcolumn)
    · obtain ⟨names, -, rfl⟩ := List.mem_map.1 hpart
      rfl

variable {table : Table}

/-- The statement starts with the name of the table, and the rest stands in brackets. -/
theorem createSql_eq (table : Table) : table.createSql =
    start "CREATE" ["TABLE", table.name] ++ [' '] ++ '(' :: (table.partsSql ++ [')', ';']) := by
  change ("CREATE".toList ++ (' ' :: "TABLE".toList ++ [' '])) ++ table.name.toList ++ [' ', '('] ++
      table.partsSql ++ [')', ';'] =
    "CREATE".toList ++ spaced ["TABLE".toList, table.name.toList] ++ [' '] ++
      '(' :: (table.partsSql ++ [')', ';'])
  generalize "CREATE".toList = first
  generalize "TABLE".toList = second
  simp [spaced]

/-- The statement starts with words. -/
theorem isWord_of_mem_createStart (h : IsIdentifier table.name) :
    ∀ word ∈ ["TABLE", table.name], IsWord word.toList := by
  simpa using ⟨by decide, h.isWord⟩

/-- **The statement that creates a table starts with the name of the table**, whatever its columns
are. -/
theorem exists_tokens_createSql (h : IsIdentifier table.name) :
    ∃ body, (lexemes table.createSql).map (·.token) =
      .word "CREATE".toList :: .word "TABLE".toList :: .word table.name.toList :: .opening :: body := by
  rw [createSql_eq]
  exact exists_tokens_start (by decide) (isWord_of_mem_createStart h) (.inr rfl) _

/-- The columns and clauses hold no character that ends a statement. -/
theorem nul_not_mem_partsSql (hnames : table.IsOverIdentifiers)
    (hplain : ∀ column ∈ table.columns, column.IsPlain) : '\x00' ∉ table.partsSql := by
  refine not_mem_intercalate (by decide) fun part hpart => ?_
  rcases List.mem_append.1 hpart with hpart | hpart
  · obtain ⟨column, hcolumn, rfl⟩ := List.mem_map.1 hpart
    exact Column.nul_not_mem_sql (hnames.columns column hcolumn) (hplain column hcolumn)
  · obtain ⟨names, hmem, rfl⟩ := List.mem_map.1 hpart
    have hinner : '\x00' ∉ commaList (names.map String.toList) := by
      refine not_mem_intercalate (by decide) fun part hpart => ?_
      obtain ⟨name, hname, rfl⟩ := List.mem_map.1 hpart
      exact (hnames.unique names hmem name hname).nul_not_mem
    exact List.not_mem_append (List.not_mem_append (by decide) hinner) (by decide)

/-- **The tokens of the statement that creates a plain table are known.** -/
theorem tokens_createSql (hnames : table.IsOverIdentifiers)
    (hplain : ∀ column ∈ table.columns, column.IsPlain) :
    (lexemes table.createSql).map (·.token) = table.tokens := by
  have hfirst : IsWord "CREATE".toList := by decide
  have hwords := isWord_of_mem_createStart hnames.name
  have hnul : '\x00' ∉ table.createSql := by
    have hparts : '\x00' ∉ '(' :: (table.partsSql ++ [')', ';']) :=
      List.not_mem_cons_of_ne_of_not_mem (by decide)
        (List.not_mem_append (nul_not_mem_partsSql hnames hplain) (by decide))
    have hstart := List.not_mem_append (nul_not_mem_start hfirst hwords)
      (by decide : '\x00' ∉ [' '])
    rw [createSql_eq]
    exact List.not_mem_append hstart hparts
  have htokens : tokensOf table.createSql = .word "CREATE".toList :: .word "TABLE".toList ::
      .word table.name.toList :: .opening :: tokensOf (table.partsSql ++ [')', ';']) := by
    rw [createSql_eq]
    exact (spells_start hfirst hwords).tokensOf_bracket (.inr rfl) _
  have hparts := spells_partsSql hnames hplain ')' [';'] (by decide)
  have hend : tokensOf [')', ';'] = [.closing, .sign [';']] := rfl
  rw [hparts, hend] at htokens
  rw [lexemes_eq_lexed hnul]
  exact htokens

/-! ### Other statements -/

/-- **The statement that creates an index starts with its name and the name of its table.** -/
theorem exists_tokens_createIndexSql {index : Index} (hindex : IsIdentifier index.name)
    (h : IsIdentifier table.name) :
    ∃ body, (lexemes (table.createIndexSql index)).map (·.token) =
      .word "CREATE".toList :: .word "INDEX".toList :: .word index.name.toList ::
        .word "ON".toList :: .word table.name.toList :: .opening :: body := by
  have hsql : table.createIndexSql index = start "CREATE" ["INDEX", index.name, "ON", table.name] ++
      [] ++ '(' :: (index.columns.toList ++ [')', ';']) := by
    change ("CREATE".toList ++ (' ' :: "INDEX".toList ++ [' '])) ++ index.name.toList ++
        (' ' :: "ON".toList ++ [' ']) ++ table.name.toList ++
        '(' :: index.columns.toList ++ [')', ';'] =
      "CREATE".toList ++ spaced ["INDEX".toList, index.name.toList, "ON".toList, table.name.toList] ++
        [] ++ '(' :: (index.columns.toList ++ [')', ';'])
    generalize "CREATE".toList = first
    generalize "INDEX".toList = second
    generalize "ON".toList = third
    simp [spaced]
  have hwords : ∀ word ∈ ["INDEX", index.name, "ON", table.name], IsWord word.toList := by
    simpa using ⟨by decide, hindex.isWord, by decide, h.isWord⟩
  rw [hsql]
  exact exists_tokens_start (by decide) hwords (.inl rfl) _

/-- The tokens of the request for the columns of a table. -/
theorem tokens_columnsSql (h : IsIdentifier table.name) :
    (lexemes table.columnsSql).map (·.token) =
      [.word "PRAGMA".toList, .word "table_info".toList, .opening, .word table.name.toList, .closing,
        .sign [';']] := by
  have hsql : table.columnsSql = start "PRAGMA" ["table_info"] ++ [] ++
      '(' :: (table.name.toList ++ [')', ';']) := by
    change ("PRAGMA".toList ++ (' ' :: "table_info".toList ++ ['('])) ++ table.name.toList ++
        [')', ';'] =
      "PRAGMA".toList ++ spaced ["table_info".toList] ++ [] ++
        '(' :: (table.name.toList ++ [')', ';'])
    generalize "PRAGMA".toList = first
    generalize "table_info".toList = second
    simp [spaced]
  have hfirst : IsWord "PRAGMA".toList := by decide
  have hwords : ∀ word ∈ ["table_info"], IsWord word.toList := by decide
  have hnul : '\x00' ∉ table.columnsSql := by
    have hname : '\x00' ∉ '(' :: (table.name.toList ++ [')', ';']) :=
      List.not_mem_cons_of_ne_of_not_mem (by decide)
        (List.not_mem_append h.nul_not_mem (by decide))
    rw [hsql]
    exact List.not_mem_append (List.not_mem_append (nul_not_mem_start hfirst hwords) (by decide)) hname
  have htokens : tokensOf table.columnsSql = .word "PRAGMA".toList :: .word "table_info".toList ::
      .opening :: tokensOf (table.name.toList ++ [')', ';']) := by
    rw [hsql]
    exact (spells_start hfirst hwords).tokensOf_bracket (.inl rfl) _
  have hname := spells_word h.isWord ')' [';'] (by decide)
  have hend : tokensOf [')', ';'] = [.closing, .sign [';']] := rfl
  rw [hname, hend] at htokens
  rw [lexemes_eq_lexed hnul]
  exact htokens

end Table

end TodoLedger.Schema
