import TodoLedger.Proofs.Schema.Clauses

/-!
# Reading the definitions of tables

* `Column.Makes column definition`: the definition has the name, the type and the rules that the
  column declares. **What is read of a column is such a definition** (`Column.read`), unless the
  reader gets stuck.
* `Table.Makes table definition`: the definition has the name and the columns that the table declares,
  and no rules but those that keep columns unique together. **What is read of a table up to its
  closing bracket is such a definition** (`Table.makes_of_tableBody`).
-/

namespace TodoLedger.Schema

open Sql
open Sql.Reader hiding optional

variable {lexemes later rest taken : List Lexeme}

/-- Every word has its own text in front of what follows it. -/
def IsPlaced (lexemes : List Lexeme) : Prop :=
  ∀ lexeme ∈ lexemes, ∀ word, lexeme.token = .word word → lexeme.start = word ++ lexeme.stop

/-! ### Columns -/

/-- The type of a column is read as it is written. -/
theorem typeText_eq (type : ColumnType) {start stop : List Char}
    (hstart : start = type.declared.toList ++ stop) (hlater : IsEnd later) :
    typeText (⟨.word type.declared.toList, start, stop⟩ :: later) = some (type.declared, later) := by
  have hlabels : many label (⟨.word type.declared.toList, start, stop⟩ :: later) =
      some ([type.declared], later) :=
    many_of_some_of_none (by cases type <;> rfl) hlater.label_eq_none (List.cons_ne_nil _ _)
  refine (text_of_some ?_ hstart).trans (by rw [String.ofList_toList])
  exact (bind_of_some hlabels).trans (bind_of_some (has_of_none hlater.sign_eq_none))

/-- The definition of a column says what the column declares. -/
structure Column.Makes (column : Column) (definition : ColumnDefinition) : Prop where
  name : definition.name = column.name
  type : definition.type = column.type.declared
  rules : List.Forall₂ Clause.Makes column.clauses definition.rules

section Columns

variable {column : Column} {start stop a b : List Char}

/-- A definition is a name, a type, and rules. -/
theorem columnDefinition_eq (hname : isThing column.name.toList)
    (hstart : start = column.type.declared.toList ++ stop) (hlater : IsEnd later)
    {rules : List ColumnRule} (hrules : many columnRule later = some (rules, rest)) :
    columnDefinition (⟨.word column.name.toList, a, b⟩ ::
      ⟨.word column.type.declared.toList, start, stop⟩ :: later) =
        some (⟨column.name, column.type.declared, rules⟩, rest) := by
  refine (bind_of_some (name_of_isThing hname)).trans ?_
  refine (bind_of_some (typeText_eq column.type hstart hlater)).trans ?_
  rw [String.ofList_toList]
  exact bind_of_some hrules

/-- There is no column without a name. -/
theorem columnDefinition_eq_none (hname : isThing column.name.toList = false) :
    columnDefinition (⟨.word column.name.toList, a, b⟩ :: later) = none :=
  bind_of_none (name_eq_none hname)

/-- Parts have at least as many tokens as there are parts, if no part is without any. -/
theorem length_le_length_flatMap {α β : Type} {tokensOf : α → List β}
    (h : ∀ part, tokensOf part ≠ []) (parts : List α) :
    parts.length ≤ (parts.flatMap tokensOf).length := by
  induction parts with
  | nil => exact Nat.zero_le _
  | cons part parts ih =>
    have hpos := List.length_pos_iff.2 (h part)
    rw [List.flatMap_cons, List.length_append, List.length_cons]
    omega

/-- There are at least as many lexemes as parts, if no part is without any. -/
theorem length_le_of_parts {α : Type} {parts : List α} {tokensOf : α → List Token}
    (htaken : taken.map (·.token) = parts.flatMap tokensOf) (hparts : ∀ part, tokensOf part ≠ [])
    (later : List Lexeme) : parts.length ≤ (taken ++ later).length := by
  have hlength := length_le_length_flatMap hparts parts
  rw [← htaken, List.length_map] at hlength
  rw [List.length_append]
  exact Nat.le_add_right_of_le hlength

/-- The start of the lexemes of a column. -/
theorem exists_of_columnTokens (htaken : taken.map (·.token) = column.tokens) :
    ∃ a b start stop clauses, taken = ⟨.word column.name.toList, a, b⟩ ::
      ⟨.word column.type.declared.toList, start, stop⟩ :: clauses ∧
        clauses.map (·.token) = column.clauses.flatMap Clause.tokens := by
  obtain ⟨a, b, _, rfl, htype⟩ := exists_of_map_token htaken
  obtain ⟨start, stop, clauses, rfl, hclauses⟩ := exists_of_map_token htype
  exact ⟨a, b, start, stop, clauses, rfl, hclauses⟩

/-- **What is read of a column says what the column declares**, unless the reader gets stuck. -/
theorem Column.read (hnames : column.IsOverIdentifiers) (hplain : column.IsPlain)
    (htaken : taken.map (·.token) = column.tokens) (hplaced : IsPlaced taken)
    (hlater : EndsColumn later) (hname : isThing column.name.toList) :
    ∃ definition rest, columnDefinition (taken ++ later) = some (definition, rest) ∧
      ((rest = later ∧ column.Makes definition) ∨ IsDead rest) := by
  obtain ⟨a, b, start, stop, clauses, rfl, hclauses⟩ := exists_of_columnTokens htaken
  have hend := isEnd_append hclauses hlater.isEnd
  have hstart : start = column.type.declared.toList ++ stop :=
    hplaced _ (List.mem_cons_of_mem _ List.mem_cons_self) _ rfl
  obtain ⟨rules, rest, hrules⟩ := exists_upTo columnRule (clauses ++ later).length (clauses ++ later)
  refine ⟨_, _, columnDefinition_eq hname hstart hend hrules, ?_⟩
  have hfuel := length_le_of_parts hclauses (by rintro ⟨⟩ <;> exact List.cons_ne_nil _ _) later
  have hall := Column.isPlain_of_mem_clauses hnames hplain
  rcases upTo_clauses hall hclauses hlater hfuel hrules with ⟨rfl, hmakes⟩ | hdead
  · exact .inl ⟨rfl, ⟨rfl, rfl, hmakes⟩⟩
  · exact .inr hdead

end Columns

/-! ### Between the columns -/

/-- Neither the closing bracket nor a rule of the table follows. -/
def IsStuck (lexemes : List Lexeme) : Prop :=
  sign ")" lexemes = none ∧ (do sign ","; tableRule : Reader TableRule) lexemes = none

/-- No comma follows what does not end a column. -/
theorem IsDead.sign_comma (h : IsDead lexemes) : sign "," lexemes = none := by
  cases lexemes with
  | nil => rfl
  | cons lexeme later => exact sign_eq_none (h lexeme rfl).1

/-- What does not end a column does not end the table either. -/
theorem IsDead.isStuck (h : IsDead lexemes) : IsStuck lexemes := by
  refine ⟨?_, bind_of_none h.sign_comma⟩
  cases lexemes with
  | nil => rfl
  | cons lexeme later => exact sign_eq_none (h lexeme rfl).2

/-- A column is no rule of the table, unless it is called `constraint`. -/
theorem tableRule_eq_none {column : Column} (hnames : column.IsOverIdentifiers)
    (hplain : column.IsPlain) {a b c d : List Char} :
    tableRule (⟨.word column.name.toList, a, b⟩ :: ⟨.word column.type.declared.toList, c, d⟩ ::
      later) = none := by
  have hconstraint : column.name.toList.map Char.toLower ≠ "constraint".toList := by
    have hfolded : column.name.toList.map Char.toLower = column.name.toList := hnames.1.folded_eq
    rw [hfolded]
    exact fun h => hplain.1 (String.toList_inj.1 h)
  have hkey : words ["key"] (⟨.word column.type.declared.toList, c, d⟩ :: later) = none := by
    cases column.type <;> rfl
  unfold tableRule
  refine (orElse_of_none (bind_of_none (word_eq_none hconstraint))).trans ?_
  refine (orElse_of_none (bind_of_none (word_bind_eq_none hkey))).trans ?_
  refine (orElse_of_none (word_bind_eq_none (by rfl))).trans ?_
  refine (orElse_of_none (word_bind_eq_none (by rfl))).trans ?_
  exact bind_of_none (word_bind_eq_none hkey)

/-- A comma that stands before a column, and what the lexemes of the column start with. -/
theorem exists_of_comma {column : Column} {tokens : List Token}
    (htaken : taken.map (·.token) = [Token.comma] ++ column.tokens ++ tokens) :
    ∃ a b first second, taken = ⟨.comma, a, b⟩ :: (first ++ second) ∧
      first.map (·.token) = column.tokens ∧ second.map (·.token) = tokens := by
  obtain ⟨a, b, columns, rfl, hcolumns⟩ := exists_of_map_token htaken
  obtain ⟨first, second, rfl, hfirst, hsecond⟩ := List.map_eq_append_iff.1 hcolumns
  exact ⟨a, b, first, second, rfl, hfirst, hsecond⟩

/-- Columns behind commas start with a comma, or what stands behind them follows. -/
theorem endsColumn_append {α : Type} {parts : List α} {tokensOf : α → List Token}
    (htaken : taken.map (·.token) = parts.flatMap ([Token.comma] ++ tokensOf ·))
    (hlater : EndsColumn later) : EndsColumn (taken ++ later) := by
  cases parts with
  | nil =>
    obtain rfl := List.map_eq_nil_iff.1 htaken
    exact hlater
  | cons part parts =>
    obtain ⟨_, _, _, rfl, -⟩ := exists_of_map_token htaken
    exact ⟨_, rfl, .inl rfl⟩

/-- **Columns are read one by one as what they declare, unless the reader gets stuck.** -/
theorem upTo_columns {columns : List Column} (hnames : ∀ column ∈ columns, column.IsOverIdentifiers)
    (hplain : ∀ column ∈ columns, column.IsPlain)
    (htaken : taken.map (·.token) = columns.flatMap ([Token.comma] ++ ·.tokens))
    (hplaced : IsPlaced taken) (hlater : EndsColumn later)
    (hend : (do sign ","; columnDefinition : Reader ColumnDefinition) later = none) {fuel : Nat}
    (hfuel : columns.length ≤ fuel) {definitions : List ColumnDefinition}
    (h : upTo (do sign ","; columnDefinition) fuel (taken ++ later) = some (definitions, rest)) :
    (rest = later ∧ List.Forall₂ Column.Makes columns definitions) ∨ IsStuck rest := by
  induction columns generalizing fuel taken definitions with
  | nil =>
    obtain rfl := List.map_eq_nil_iff.1 htaken
    obtain ⟨rfl, rfl⟩ := read_unique h (upTo_of_none hend fuel)
    exact .inl ⟨rfl, .nil⟩
  | cons column columns ih =>
    obtain ⟨fuel, rfl, hless⟩ := exists_fuel hfuel
    rw [List.flatMap_cons] at htaken
    obtain ⟨a, b, first, second, rfl, hfirst, hsecond⟩ := exists_of_comma htaken
    have hcolumn := hnames column List.mem_cons_self
    have hcolumnPlain := hplain column List.mem_cons_self
    rw [List.cons_append, List.append_assoc] at h
    have hcomma {next : Reader ColumnDefinition} {lexemes : List Lexeme} :
        (sign "," >>= fun _ => next) (⟨.comma, a, b⟩ :: lexemes) = next lexemes :=
      bind_of_some (by rfl)
    by_cases hname : isThing column.name.toList
    · have hplacedFirst : IsPlaced first := fun lexeme hlexeme =>
        hplaced lexeme (List.mem_cons_of_mem _ (List.mem_append_left _ hlexeme))
      have hplacedSecond : IsPlaced second := fun lexeme hlexeme =>
        hplaced lexeme (List.mem_cons_of_mem _ (List.mem_append_right _ hlexeme))
      obtain ⟨definition, middle, hread, hmiddle⟩ := Column.read hcolumn hcolumnPlain hfirst
        hplacedFirst (endsColumn_append hsecond hlater) hname
      obtain ⟨others, rfl, hothers⟩ := exists_of_upTo_of_some (hcomma.trans hread) h
      rcases hmiddle with ⟨rfl, hmakes⟩ | hdead
      · rcases ih (List.forall_mem_of_forall_mem_cons hnames)
          (List.forall_mem_of_forall_mem_cons hplain) hsecond hplacedSecond
          hless hothers with ⟨rfl, hdefinitions⟩ | hstuck
        · exact .inl ⟨rfl, .cons hmakes hdefinitions⟩
        · exact .inr hstuck
      · obtain ⟨-, rfl⟩ := read_unique hothers (upTo_of_none (bind_of_none hdead.sign_comma) fuel)
        exact .inr hdead.isStuck
    · -- The word is no name, so that no column is read here, and no rule either.
      obtain ⟨_, _, _, _, clauses, rfl, -⟩ := exists_of_columnTokens hfirst
      obtain ⟨-, rfl⟩ := read_unique h (upTo_of_none
        (hcomma.trans (columnDefinition_eq_none (Bool.eq_false_iff.2 hname))) _)
      exact .inr ⟨by rfl, (bind_of_some (by rfl)).trans (tableRule_eq_none hcolumn hcolumnPlain)⟩

/-! ### Behind the columns -/

/-- The terms of a key close all their brackets. -/
theorem nests_terms : Nests terms := (nests_sortTerm nests_leveled).list

/-- **Columns that are unique together are read as such a rule, if they are read.** -/
theorem tableRule_unique {names : List String}
    (htaken : taken.map (·.token) = Table.uniqueTokens names) (hlater : IsEnd later) :
    tableRule (taken ++ later) = none ∨
      ∃ terms, tableRule (taken ++ later) = some (.unique terms, later) := by
  have hinner : Balanced ([Token.comma].intercalate (names.map fun name => [.word name.toList])) :=
    .of_not_mem (not_mem_intercalate (by decide) (by simp [Token.opening]))
      (not_mem_intercalate (by decide) (by simp [Token.closing]))
  obtain ⟨_, _, brackets, rfl, hbrackets⟩ := exists_of_map_token htaken
  cases hterms : inParentheses terms (brackets ++ later) with
  | none =>
    left
    refine (orElse_of_none (by rfl)).trans <| (orElse_of_none (by rfl)).trans <|
      (orElse_of_none ?_).trans (by rfl)
    exact (bind_of_some (by rfl)).trans (bind_of_none hterms)
  | some found =>
    obtain ⟨found, rest⟩ := found
    right
    refine ⟨found, ?_⟩
    obtain rfl : rest = later := rest_of_inParentheses nests_terms hinner hbrackets hterms
    refine (orElse_of_none (by rfl)).trans <| (orElse_of_none (by rfl)).trans <| orElse_of_some ?_
    refine (bind_of_some (by rfl)).trans <| (bind_of_some hterms).trans ?_
    exact bind_of_some hlater.conflictClause_eq

/-- The rules that keep columns unique together. -/
def IsUniqueRule (rule : TableRule) : Prop := ∃ terms, rule = .unique terms

/-- **Clauses for columns that are unique together are read one by one, unless the reader stops at a
comma.** -/
theorem upTo_unique {unique : List (List String)}
    (htaken : taken.map (·.token) = unique.flatMap ([Token.comma] ++ Table.uniqueTokens ·))
    {a b : List Char} {fuel : Nat} (hfuel : unique.length ≤ fuel) {rules : List TableRule}
    (h : upTo (do let _ ← has (sign ","); tableRule) fuel (taken ++ ⟨.closing, a, b⟩ :: later) =
      some (rules, rest)) :
    (rest = ⟨.closing, a, b⟩ :: later ∧ ∀ rule ∈ rules, IsUniqueRule rule) ∨
      sign ")" rest = none := by
  have hlater : EndsColumn (⟨.closing, a, b⟩ :: later) := ⟨_, rfl, .inr rfl⟩
  induction unique generalizing fuel taken rules with
  | nil =>
    obtain rfl := List.map_eq_nil_iff.1 htaken
    obtain ⟨rfl, rfl⟩ := read_unique h (upTo_of_none (by rfl) fuel)
    exact .inl ⟨rfl, by simp⟩
  | cons names unique ih =>
    obtain ⟨fuel, rfl, hless⟩ := exists_fuel hfuel
    obtain ⟨c, d, parts, rfl, hparts⟩ := exists_of_map_token htaken
    obtain ⟨first, second, rfl, hfirst, hsecond⟩ := List.map_eq_append_iff.1 hparts
    rw [List.cons_append, List.append_assoc] at h
    have hcomma {lexemes : List Lexeme} : (has (sign ",") >>= fun _ => tableRule)
        (⟨.comma, c, d⟩ :: lexemes) = tableRule lexemes :=
      bind_of_some (by rfl)
    rcases tableRule_unique hfirst (endsColumn_append hsecond hlater).isEnd with hnone | ⟨terms, hrule⟩
    · obtain ⟨-, rfl⟩ :=
        read_unique h (upTo_of_none (hcomma.trans hnone) _)
      exact .inr (by rfl)
    · obtain ⟨others, rfl, hothers⟩ := exists_of_upTo_of_some (hcomma.trans hrule) h
      rcases ih hsecond hless hothers with ⟨rfl, hrules⟩ | hstuck
      · refine .inl ⟨rfl, fun rule hrule => ?_⟩
        rcases List.mem_cons.1 hrule with rfl | hrule
        · exact ⟨terms, rfl⟩
        · exact hrules rule hrule
      · exact .inr hstuck

/-! ### Tables -/

/-- The definition of a table says what the table declares. -/
structure Table.Makes (table : Table) (definition : TableDefinition) : Prop where
  name : definition.name = table.name
  columns : List.Forall₂ Column.Makes table.columns definition.columns
  rules : ∀ rule ∈ definition.rules, IsUniqueRule rule
  options : definition.options = []

/-- Reads the rules of a table behind its columns. -/
def tableRules : Reader (List TableRule) := do
  sign ","
  let first ← tableRule
  let rest ← many do
    let _ ← has (sign ",")
    tableRule
  return first :: rest

/-- The parts of a definition, one behind the other. -/
theorem exists_of_tableBody {name : String} {definition : TableDefinition}
    (h : tableBody name lexemes = some (definition, rest)) :
    ∃ columns rules options columnsAt rulesAt closingAt optionsAt,
      definition = ⟨name, columns, rules.getD [], options⟩ ∧
      sign "(" lexemes = some ((), columnsAt) ∧
      list columnDefinition columnsAt = some (columns, rulesAt) ∧
      Reader.optional tableRules rulesAt = some (rules, closingAt) ∧
      sign ")" closingAt = some ((), optionsAt) ∧
      (list tableOption <|> pure []) optionsAt = some (options, rest) := by
  obtain ⟨_, columnsAt, hopening, h⟩ := exists_of_bind h
  obtain ⟨columns, rulesAt, hcolumns, h⟩ := exists_of_bind h
  obtain ⟨rules, closingAt, hrules, h⟩ := exists_of_bind h
  obtain ⟨_, optionsAt, hclosing, h⟩ := exists_of_bind h
  obtain ⟨options, end_, hoptions, h⟩ := exists_of_bind h
  obtain ⟨rfl, rfl⟩ := eq_of_pure h
  exact ⟨columns, rules, options, columnsAt, rulesAt, closingAt, optionsAt, rfl, hopening, hcolumns,
    hrules, hclosing, hoptions⟩

/-- Nothing follows the columns where the reader is stuck. -/
theorem IsStuck.optional_tableRules (h : IsStuck lexemes) :
    Reader.optional tableRules lexemes = some (none, lexemes) := by
  refine optional_of_none ?_
  cases hcomma : sign "," lexemes with
  | none => exact bind_of_none hcomma
  | some found =>
    have hrule := h.2
    rw [bind_of_some hcomma] at hrule
    exact (bind_of_some hcomma).trans (bind_of_none hrule)

/-- The rules between the columns and the closing bracket. -/
theorem rules_of_unique {unique : List (List String)}
    (htaken : taken.map (·.token) = unique.flatMap ([Token.comma] ++ Table.uniqueTokens ·))
    {a b : List Char} {rules : Option (List TableRule)} {closingAt optionsAt : List Lexeme}
    (hrules : Reader.optional tableRules (taken ++ ⟨.closing, a, b⟩ :: later) = some (rules, closingAt))
    (hclosing : sign ")" closingAt = some ((), optionsAt)) :
    optionsAt = later ∧ ∀ rule ∈ rules.getD [], IsUniqueRule rule := by
  cases unique with
  | nil =>
    obtain rfl := List.map_eq_nil_iff.1 htaken
    obtain ⟨rfl, rfl⟩ := read_unique hrules (optional_of_none (by rfl))
    obtain ⟨-, rfl⟩ := Prod.mk.inj (Option.some.inj hclosing)
    exact ⟨rfl, by simp⟩
  | cons names unique =>
    obtain ⟨c, d, parts, rfl, hparts⟩ := exists_of_map_token htaken
    obtain ⟨first, second, rfl, hfirst, hsecond⟩ := List.map_eq_append_iff.1 hparts
    rw [List.cons_append, List.append_assoc] at hrules
    have hlater : EndsColumn (⟨.closing, a, b⟩ :: later) := ⟨_, rfl, .inr rfl⟩
    rcases tableRule_unique hfirst (endsColumn_append hsecond hlater).isEnd with hnone | ⟨terms, hrule⟩
    · obtain ⟨-, rfl⟩ := read_unique hrules (optional_of_none
        ((bind_of_some (by rfl)).trans (bind_of_none hnone)))
      cases hclosing
    · obtain ⟨others, stop, hothers⟩ := exists_upTo (do let _ ← has (sign ","); tableRule)
        (second ++ ⟨.closing, a, b⟩ :: later).length (second ++ ⟨.closing, a, b⟩ :: later)
      have hread : tableRules (⟨.comma, c, d⟩ :: (first ++ (second ++ ⟨.closing, a, b⟩ :: later))) =
          some (.unique terms :: others, stop) :=
        (bind_of_some (by rfl)).trans <| (bind_of_some hrule).trans (bind_of_some hothers)
      obtain ⟨rfl, rfl⟩ := read_unique hrules (optional_of_some hread)
      have hfuel := length_le_of_parts hsecond (by simp) (⟨.closing, a, b⟩ :: later)
      rcases upTo_unique hsecond hfuel hothers with ⟨rfl, hall⟩ | hstuck
      · obtain ⟨-, rfl⟩ := Prod.mk.inj (Option.some.inj hclosing)
        refine ⟨rfl, fun rule hmem => ?_⟩
        rcases List.mem_cons.1 hmem with rfl | hmem
        · exact ⟨terms, rfl⟩
        · exact hall rule hmem
      · cases hclosing.symm.trans hstuck

/-- What is left behind the first column, unless it is no column. -/
theorem columns_of_list {column : Column} {columns : List Column} {first second : List Lexeme}
    (hnames : ∀ other ∈ column :: columns, other.IsOverIdentifiers)
    (hplain : ∀ other ∈ column :: columns, other.IsPlain)
    (hfirst : first.map (·.token) = column.tokens)
    (hsecond : second.map (·.token) = columns.flatMap ([Token.comma] ++ ·.tokens))
    (hplaced : IsPlaced (first ++ second)) (hlater : EndsColumn later)
    (hend : (do sign ","; columnDefinition : Reader ColumnDefinition) later = none)
    {definitions : List ColumnDefinition}
    (h : list columnDefinition (first ++ (second ++ later)) = some (definitions, rest)) :
    (rest = later ∧ List.Forall₂ Column.Makes (column :: columns) definitions) ∨ IsStuck rest := by
  obtain ⟨definition, middle, hread, hlist⟩ := exists_of_bind h
  obtain ⟨others, stop, hothers, hpure⟩ := exists_of_bind hlist
  obtain ⟨rfl, rfl⟩ := eq_of_pure hpure
  have hname : isThing column.name.toList := by
    by_contra hnone
    obtain ⟨_, _, _, _, _, rfl, -⟩ := exists_of_columnTokens hfirst
    cases hread.symm.trans (columnDefinition_eq_none (Bool.eq_false_iff.2 hnone))
  obtain ⟨found, foundAt, hfound, hmiddle⟩ := Column.read (hnames column List.mem_cons_self)
    (hplain column List.mem_cons_self) hfirst
    (fun lexeme hlexeme => hplaced lexeme (List.mem_append_left _ hlexeme))
    (endsColumn_append hsecond hlater) hname
  obtain ⟨rfl, rfl⟩ := read_unique hread hfound
  rcases hmiddle with ⟨rfl, hmakes⟩ | hdead
  · have hfuel := length_le_of_parts hsecond (by simp) later
    rcases upTo_columns (List.forall_mem_of_forall_mem_cons hnames)
      (List.forall_mem_of_forall_mem_cons hplain) hsecond
      (fun lexeme hlexeme => hplaced lexeme (List.mem_append_right _ hlexeme)) hlater hend hfuel
      hothers with ⟨rfl, hdefinitions⟩ | hstuck
    · exact .inl ⟨rfl, .cons hmakes hdefinitions⟩
    · exact .inr hstuck
  · obtain ⟨-, rfl⟩ := read_unique hothers (many_of_none (bind_of_none hdead.sign_comma))
    exact .inr hdead.isStuck

/-- The lexemes of the parts of a table, one behind the other. -/
theorem exists_parts {table : Table} {column : Column} {columns : List Column}
    (hcolumns : table.columns = column :: columns)
    (htokens : lexemes.map (·.token) = [Token.comma].intercalate
      (table.columns.map Column.tokens ++ table.unique.map Table.uniqueTokens) ++
        [.closing, .sign [';']]) :
    ∃ first second third a b last, lexemes = first ++ (second ++ (third ++ ⟨.closing, a, b⟩ :: last)) ∧
      first.map (·.token) = column.tokens ∧
      second.map (·.token) = columns.flatMap ([Token.comma] ++ ·.tokens) ∧
      third.map (·.token) = table.unique.flatMap ([Token.comma] ++ Table.uniqueTokens ·) ∧
      last.map (·.token) = [.sign [';']] := by
  rw [hcolumns, List.map_cons, List.cons_append, intercalate_cons, List.flatMap_append,
    List.flatMap_map, List.flatMap_map, List.append_assoc, List.append_assoc] at htokens
  obtain ⟨first, later, rfl, hfirst, hlater⟩ := List.map_eq_append_iff.1 htokens
  obtain ⟨second, later, rfl, hsecond, hlater⟩ := List.map_eq_append_iff.1 hlater
  obtain ⟨third, later, rfl, hthird, hlater⟩ := List.map_eq_append_iff.1 hlater
  obtain ⟨a, b, last, rfl, hlast⟩ := exists_of_map_token hlater
  exact ⟨first, second, third, a, b, last, rfl, hfirst, hsecond, hthird, hlast⟩

/-- No column is read behind the columns. -/
theorem columnDefinition_behind {unique : List (List String)}
    (htaken : taken.map (·.token) = unique.flatMap ([Token.comma] ++ Table.uniqueTokens ·))
    {a b : List Char} :
    (do sign ","; columnDefinition : Reader ColumnDefinition) (taken ++ ⟨.closing, a, b⟩ :: later) =
      none := by
  cases unique with
  | nil =>
    obtain rfl := List.map_eq_nil_iff.1 htaken
    rfl
  | cons names unique =>
    obtain ⟨_, _, _, rfl, hfirst⟩ := exists_of_map_token htaken
    obtain ⟨_, _, _, rfl, -⟩ := exists_of_map_token hfirst
    rfl

/-- A table without columns is not read. -/
theorem list_columnDefinition_eq_none {unique : List (List String)}
    (htokens : lexemes.map (·.token) = [Token.comma].intercalate (unique.map Table.uniqueTokens) ++
      [.closing, .sign [';']]) : list columnDefinition lexemes = none := by
  cases unique with
  | nil =>
    obtain ⟨_, _, _, rfl, -⟩ := exists_of_map_token htokens
    exact bind_of_none (by rfl)
  | cons names unique =>
    rw [List.map_cons, intercalate_cons] at htokens
    obtain ⟨_, _, _, rfl, -⟩ := exists_of_map_token htokens
    exact bind_of_none (by rfl)

/-- **What is read of a table says what the table declares.** -/
theorem Table.makes_of_tableBody {table : Table} (hnames : table.IsOverIdentifiers)
    (hplain : ∀ column ∈ table.columns, column.IsPlain) (hplaced : IsPlaced lexemes)
    (htokens : lexemes.map (·.token) = .opening :: ([Token.comma].intercalate
      (table.columns.map Column.tokens ++ table.unique.map uniqueTokens) ++
        [.closing, .sign [';']])) {definition : TableDefinition}
    (h : tableBody table.name lexemes = some (definition, rest)) : table.Makes definition := by
  obtain ⟨definitions, rules, options, columnsAt, rulesAt, closingAt, optionsAt, rfl, hopening,
    hlist, hrules, hclosing, hoptions⟩ := exists_of_tableBody h
  obtain ⟨_, _, parts, rfl, hparts⟩ := exists_of_map_token htokens
  obtain ⟨-, rfl⟩ := Prod.mk.inj (Option.some.inj hopening)
  have hall := hnames.columns
  cases hcolumns : table.columns with
  | nil =>
    rw [hcolumns, List.map_nil, List.nil_append] at hparts
    cases hlist.symm.trans (list_columnDefinition_eq_none hparts)
  | cons column columns =>
    obtain ⟨first, second, third, a, b, last, rfl, hfirst, hsecond, hthird, hlast⟩ :=
      exists_parts hcolumns hparts
    rw [hcolumns] at hall hplain
    have hplacedColumns : IsPlaced (first ++ second) := by
      intro lexeme hlexeme
      refine hplaced lexeme (List.mem_cons_of_mem _ ?_)
      rw [← List.append_assoc]
      exact List.mem_append_left _ hlexeme
    have hlater : EndsColumn (third ++ ⟨.closing, a, b⟩ :: last) :=
      endsColumn_append hthird ⟨_, rfl, .inr rfl⟩
    rcases columns_of_list hall hplain hfirst hsecond hplacedColumns hlater
        (columnDefinition_behind hthird) hlist with
      ⟨rfl, hdefinitions⟩ | hstuck
    · obtain ⟨rfl, hunique⟩ := rules_of_unique hthird hrules hclosing
      obtain ⟨c, d, none, rfl, hnone⟩ := exists_of_map_token hlast
      obtain ⟨rfl, -⟩ := read_unique hoptions (orElse_of_none (by rfl))
      exact ⟨rfl, hcolumns ▸ hdefinitions, hunique, rfl⟩
    · obtain ⟨-, rfl⟩ := read_unique hrules hstuck.optional_tableRules
      cases hclosing.symm.trans hstuck.1

end TodoLedger.Schema
