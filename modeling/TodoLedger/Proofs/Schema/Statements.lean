import TodoLedger.Proofs.Schema.Definitions
import TodoLedger.Schema.Execution

/-!
# Reading the statements for a schema

* The statement that creates a table is read as a new table of its name (`exists_of_createSql`), and
  **what is read of a plain table says what the table declares** (`makes_of_createSql`).
* The statement that creates an index is read as a new index of its name, on its table
  (`exists_of_createIndexSql`).
* The request for the columns of a table is read as its name, if that can be the name of a thing
  (`tableOfRequest?_of_isThing`), and never as another one (`eq_of_tableOfRequest?`).
-/

namespace TodoLedger.Schema

open Sql
open Sql.Reader hiding optional

variable {lexemes later rest : List Lexeme} {word : List Char} {a b c d : List Char}

/-! ### Names -/

/-- A word that is read as a name. -/
theorem eq_of_name {found : String} (h : name (⟨.word word, a, b⟩ :: later) = some (found, rest)) :
    isThing word ∧ found = String.ofList word ∧ rest = later := by
  cases hthing : isThing word with
  | false => cases h.symm.trans (name_eq_none hthing)
  | true =>
    obtain ⟨rfl, rfl⟩ := read_unique h (name_of_isThing hthing)
    exact ⟨rfl, rfl, rfl⟩

/-- A name with nothing in front of it is new in any case. -/
theorem eq_of_newness {ifNew : Bool} (hlater : words ["not", "exists"] later = none)
    (h : newness (⟨.word word, a, b⟩ :: later) = some (ifNew, rest)) :
    ifNew = false ∧ rest = ⟨.word word, a, b⟩ :: later := by
  obtain ⟨found, middle, hfound, hnext⟩ := exists_of_bind h
  rcases has_eq_some_iff.1 hfound with ⟨rfl, hword⟩ | ⟨rfl, -, rfl⟩
  · obtain ⟨_, heq, -⟩ := token_eq_some_iff.1 hword
    obtain ⟨-, rfl⟩ := List.cons.inj heq
    cases hnext.symm.trans (bind_of_none hlater)
  · obtain ⟨rfl, rfl⟩ := eq_of_pure hnext
    exact ⟨rfl, rfl⟩

/-- A name with no place in front of it. -/
theorem eq_of_placedName {found : Place × String} (hlater : sign "." later = none)
    (h : placedName (⟨.word word, a, b⟩ :: later) = some (found, rest)) :
    isThing word ∧ found = (.main, String.ofList word) ∧ rest = later := by
  obtain ⟨first, middle, hfirst, hnext⟩ := exists_of_bind h
  obtain ⟨hthing, rfl, rfl⟩ := eq_of_name hfirst
  obtain ⟨rfl, rfl⟩ :=
    read_unique hnext (bind_of_some (has_of_none hlater))
  exact ⟨hthing, rfl, rfl⟩

/-! ### Tables -/

/-- What is read in a text is read at its start. -/
theorem exists_of_run? {α : Type} {reader : Reader α} {text : List Char} {found : α}
    (h : run? reader text = some found) : ∃ rest, reader (Sql.lexemes text) = some (found, rest) := by
  obtain ⟨⟨value, rest⟩, hvalue, hend⟩ := Option.bind_eq_some_iff.1 h
  refine ⟨rest, hvalue.trans ?_⟩
  cases rest with
  | nil => rw [Option.some.inj hend]
  | cons lexeme rest =>
    dsimp only at hend
    split at hend
    · rw [Option.some.inj hend]
    · cases hend

/-- A statement that creates a table with a name in front of the bracket. -/
theorem exists_of_statement_table {table : String} {tokens : List Token} {found : Statement}
    (htokens : lexemes.map (·.token) = .word "CREATE".toList :: .word "TABLE".toList ::
      .word table.toList :: .opening :: tokens)
    (h : statement lexemes = some (found, rest)) :
    ∃ definition taken body, found = .createTable false .main definition ∧ isThing table.toList ∧
      lexemes = taken ++ body ∧ body.map (·.token) = .opening :: tokens ∧
      tableBody table body = some (definition, rest) := by
  obtain ⟨c1, d1, _, rfl, h1⟩ := exists_of_map_token htokens
  obtain ⟨c2, d2, _, rfl, h2⟩ := exists_of_map_token h1
  obtain ⟨c3, d3, _, rfl, h3⟩ := exists_of_map_token h2
  obtain ⟨c4, d4, body, rfl, hbody⟩ := exists_of_map_token h3
  cases hcreate : createTable (⟨.word "CREATE".toList, c1, d1⟩ :: ⟨.word "TABLE".toList, c2, d2⟩ ::
      ⟨.word table.toList, c3, d3⟩ :: ⟨.opening, c4, d4⟩ :: body) with
  | none => cases h.symm.trans ((orElse_of_none hcreate).trans (by rfl))
  | some other =>
    obtain ⟨other, otherAt⟩ := other
    obtain ⟨rfl, rfl⟩ := read_unique h (orElse_of_some hcreate)
    obtain ⟨_, nameAt, hwords, hnew⟩ := exists_of_bind hcreate
    obtain ⟨-, rfl⟩ := Prod.mk.inj (Option.some.inj hwords)
    obtain ⟨ifNew, placeAt, hnewness, hplace⟩ := exists_of_bind hnew
    obtain ⟨rfl, rfl⟩ := eq_of_newness (by rfl) hnewness
    obtain ⟨place, bodyAt, hplaced, hlast⟩ := exists_of_bind hplace
    obtain ⟨hthing, rfl, rfl⟩ := eq_of_placedName (by rfl) hplaced
    obtain ⟨definition, end_, htable, hpure⟩ := exists_of_bind hlast
    obtain ⟨rfl, rfl⟩ := eq_of_pure hpure
    rw [String.ofList_toList] at htable
    exact ⟨definition, [⟨.word "CREATE".toList, c1, d1⟩, ⟨.word "TABLE".toList, c2, d2⟩,
      ⟨.word table.toList, c3, d3⟩], _, rfl, hthing, rfl, h3, htable⟩

/-- A statement that creates an index on a table. -/
theorem exists_of_statement_index {index table : String} {tokens : List Token} {found : Statement}
    (htokens : lexemes.map (·.token) = .word "CREATE".toList :: .word "INDEX".toList ::
      .word index.toList :: .word "ON".toList :: .word table.toList :: .opening :: tokens)
    (h : statement lexemes = some (found, rest)) :
    ∃ terms condition, found = .createIndex false .main ⟨index, table, terms, condition⟩ := by
  obtain ⟨c1, d1, _, rfl, h1⟩ := exists_of_map_token htokens
  obtain ⟨c2, d2, _, rfl, h2⟩ := exists_of_map_token h1
  obtain ⟨c3, d3, _, rfl, h3⟩ := exists_of_map_token h2
  obtain ⟨c4, d4, _, rfl, h4⟩ := exists_of_map_token h3
  obtain ⟨c5, d5, body, rfl, hbody⟩ := exists_of_map_token h4
  have h := (orElse_of_none (by rfl)).symm.trans h
  cases hcreate : createIndex (⟨.word "CREATE".toList, c1, d1⟩ :: ⟨.word "INDEX".toList, c2, d2⟩ ::
      ⟨.word index.toList, c3, d3⟩ :: ⟨.word "ON".toList, c4, d4⟩ :: ⟨.word table.toList, c5, d5⟩ ::
        body) with
  | none => cases h.symm.trans ((orElse_of_none hcreate).trans (by rfl))
  | some other =>
    obtain ⟨other, otherAt⟩ := other
    obtain ⟨rfl, rfl⟩ := read_unique h (orElse_of_some hcreate)
    obtain ⟨_, nameAt, hwords, hnew⟩ := exists_of_bind hcreate
    obtain ⟨-, rfl⟩ := Prod.mk.inj (Option.some.inj hwords)
    obtain ⟨ifNew, placeAt, hnewness, hplace⟩ := exists_of_bind hnew
    obtain ⟨rfl, rfl⟩ := eq_of_newness (by rfl) hnewness
    obtain ⟨place, onAt, hplaced, hon⟩ := exists_of_bind hplace
    obtain ⟨-, rfl, rfl⟩ := eq_of_placedName (by rfl) hplaced
    obtain ⟨_, tableAt, hword, htable⟩ := exists_of_bind hon
    obtain ⟨-, rfl⟩ := Prod.mk.inj (Option.some.inj hword)
    obtain ⟨found, termsAt, hname, hterms⟩ := exists_of_bind htable
    obtain ⟨-, rfl, rfl⟩ := eq_of_name hname
    obtain ⟨terms, conditionAt, -, hcondition⟩ := exists_of_bind hterms
    obtain ⟨condition, end_, -, hpure⟩ := exists_of_bind hcondition
    obtain ⟨rfl, -⟩ := eq_of_pure hpure
    exact ⟨terms, condition, by rw [String.ofList_toList, String.ofList_toList]⟩

variable {table : Table}

/-- **The statement that creates a table is read as a new table of its name.** -/
theorem exists_of_createSql (hname : IsIdentifier table.name) {found : Statement}
    (h : Statement.ofText? table.createSql = some found) :
    ∃ definition, found = .createTable false .main definition ∧ definition.name = table.name ∧
      isThing table.name.toList := by
  obtain ⟨rest, hstatement⟩ := exists_of_run? h
  obtain ⟨tokens, htokens⟩ := Table.exists_tokens_createSql hname
  obtain ⟨definition, _, body, rfl, hthing, -, -, hbody⟩ :=
    exists_of_statement_table htokens hstatement
  obtain ⟨_, _, _, _, _, _, _, rfl, -⟩ := exists_of_tableBody hbody
  exact ⟨_, rfl, rfl, hthing⟩

/-- **What is read of a plain table says what the table declares.** -/
theorem makes_of_createSql (hnames : table.IsOverIdentifiers)
    (hplain : ∀ column ∈ table.columns, column.IsPlain) {ifNew : Bool} {place : Place}
    {definition : TableDefinition}
    (h : Statement.ofText? table.createSql = some (.createTable ifNew place definition)) :
    table.Makes definition := by
  obtain ⟨rest, hstatement⟩ := exists_of_run? h
  obtain ⟨other, taken, body, heq, -, hlexemes, hbody, htable⟩ :=
    exists_of_statement_table (Table.tokens_createSql hnames hplain) hstatement
  obtain ⟨-, -, rfl⟩ := Statement.createTable.inj heq
  refine Table.makes_of_tableBody hnames hplain (fun lexeme hlexeme word hword => ?_) hbody htable
  have hmem : lexeme ∈ Sql.lexemes table.createSql := by
    rw [hlexemes]
    exact List.mem_append_right _ hlexeme
  rw [lexemes_eq] at hmem
  exact start_eq_of_word hmem hword

/-! ### Indices -/

/-- **The statement that creates an index is read as a new index of its name, on its table.** -/
theorem exists_of_createIndexSql (hname : IsIdentifier table.name) {index : Index}
    (hindex : IsIdentifier index.name) {found : Statement}
    (h : Statement.ofText? (table.createIndexSql index) = some found) :
    ∃ terms condition,
      found = .createIndex false .main ⟨index.name, table.name, terms, condition⟩ := by
  obtain ⟨rest, hstatement⟩ := exists_of_run? h
  obtain ⟨tokens, htokens⟩ := Table.exists_tokens_createIndexSql hindex hname
  exact exists_of_statement_index htokens hstatement

/-! ### Requests -/

/-- The name of a thing is read of a request for its columns. -/
theorem tableOfRequest?_of_isThing (hname : IsIdentifier table.name)
    (hthing : isThing table.name.toList) :
    tableOfRequest? table.columnsSql = some table.name := by
  have htokens := Table.tokens_columnsSql hname
  rw [tableOfRequest?, run?]
  generalize Sql.lexemes table.columnsSql = lexemes at htokens ⊢
  obtain ⟨c1, d1, _, rfl, h1⟩ := exists_of_map_token htokens
  obtain ⟨c2, d2, _, rfl, h2⟩ := exists_of_map_token h1
  obtain ⟨c3, d3, _, rfl, h3⟩ := exists_of_map_token h2
  obtain ⟨c4, d4, _, rfl, h4⟩ := exists_of_map_token h3
  obtain ⟨c5, d5, _, rfl, h5⟩ := exists_of_map_token h4
  obtain ⟨c6, d6, _, rfl, h6⟩ := exists_of_map_token h5
  obtain rfl := List.map_eq_nil_iff.1 h6
  have hrequest : tableRequest [⟨.word "PRAGMA".toList, c1, d1⟩, ⟨.word "table_info".toList, c2, d2⟩,
      ⟨.opening, c3, d3⟩, ⟨.word table.name.toList, c4, d4⟩, ⟨.closing, c5, d5⟩,
        ⟨.sign [';'], c6, d6⟩] = some (table.name, [⟨.sign [';'], c6, d6⟩]) := by
    refine (bind_of_some (by rfl)).trans <| (bind_of_some (by rfl)).trans ?_
    refine (bind_of_some (orElse_of_some (name_of_isThing hthing))).trans ?_
    rw [String.ofList_toList]
    exact bind_of_some (by rfl)
  rw [hrequest]
  rfl

/-- What a request asks for in brackets is the word in them. -/
theorem eq_of_requestedName {found : String}
    (h : requestedName (⟨.word word, a, b⟩ :: later) = some (found, rest)) :
    found = String.ofList word := by
  rw [requestedName, orElse_apply, orElse_apply, Option.or_eq_some_iff, Option.or_eq_some_iff] at h
  rcases h with hname | ⟨-, hword | ⟨-, hnumber⟩⟩
  · exact (eq_of_name hname).2.1
  · obtain ⟨_, heq, hread⟩ := token_eq_some_iff.1 hword
    obtain ⟨rfl, -⟩ := List.cons.inj heq
    dsimp only at hread
    split at hread
    · exact (Option.some.inj hread).symm
    · cases hread
  · cases hnumber

/-- **No other name is read of a request.** -/
theorem eq_of_tableOfRequest? (hname : IsIdentifier table.name) {found : String}
    (h : tableOfRequest? table.columnsSql = some found) : found = table.name := by
  have htokens := Table.tokens_columnsSql hname
  obtain ⟨rest, hrequest⟩ := exists_of_run? h
  generalize Sql.lexemes table.columnsSql = lexemes at htokens hrequest
  obtain ⟨c1, d1, _, rfl, h1⟩ := exists_of_map_token htokens
  obtain ⟨c2, d2, _, rfl, h2⟩ := exists_of_map_token h1
  obtain ⟨c3, d3, _, rfl, h3⟩ := exists_of_map_token h2
  obtain ⟨c4, d4, later, rfl, h4⟩ := exists_of_map_token h3
  obtain ⟨_, openingAt, hwords, hbrackets⟩ := exists_of_bind hrequest
  obtain ⟨-, rfl⟩ := Prod.mk.inj (Option.some.inj hwords)
  obtain ⟨_, nameAt, hopening, hinner⟩ := exists_of_bind hbrackets
  obtain ⟨-, rfl⟩ := Prod.mk.inj (Option.some.inj hopening)
  obtain ⟨other, closingAt, hother, hclosing⟩ := exists_of_bind hinner
  obtain ⟨_, end_, -, hpure⟩ := exists_of_bind hclosing
  obtain ⟨rfl, -⟩ := eq_of_pure hpure
  rw [eq_of_requestedName hother, String.ofList_toList]

end TodoLedger.Schema
