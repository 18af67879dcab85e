import TodoLedger.Proofs.Schema.Spelling

/-!
# Reading the clauses of a column

* What stands behind a clause starts with one of a few tokens (`Clause.ends`), none of which goes on
  with the clause (`IsEnd.word_eq_none`).
* **A clause that is read as a rule is read as the rule that it stands for**, and up to its end
  (`Clause.Makes`, `Clause.read`); otherwise the reader is stuck at something that ends no column
  (`IsDead`).
* **So the clauses of a column are read one by one** as the rules that they stand for
  (`upTo_clauses`).
-/

namespace TodoLedger.Schema

open Sql Sql.Reader

variable {lexemes later rest taken : List Lexeme}

/-! ### What stands behind a clause -/

/-- The tokens that can stand behind a clause. -/
def Clause.ends : List Token :=
  [.comma, .closing, .word "PRIMARY".toList, .word "NOT".toList, .word "UNIQUE".toList,
    .word "DEFAULT".toList, .word "REFERENCES".toList]

/-- The first token is one of those that can stand behind a clause. -/
def IsEnd (lexemes : List Lexeme) : Prop := ∃ lexeme ∈ lexemes.head?, lexeme.token ∈ Clause.ends

/-- The first token does not stand behind a column. -/
def IsDead (lexemes : List Lexeme) : Prop :=
  ∀ lexeme ∈ lexemes.head?, lexeme.token ≠ .comma ∧ lexeme.token ≠ .closing

/-- Any other token does not stand behind a column. -/
theorem isDead_cons {token : Token} {start stop : List Char} (hcomma : token ≠ .comma)
    (hclosing : token ≠ .closing) : IsDead (⟨token, start, stop⟩ :: rest) := by
  intro lexeme hlexeme
  obtain rfl := Option.some.inj hlexeme
  exact ⟨hcomma, hclosing⟩

namespace IsEnd

/-- There is a first token, and it can stand behind a clause. -/
theorem exists_cons (h : IsEnd lexemes) :
    ∃ first rest, lexemes = first :: rest ∧ first.token ∈ Clause.ends := by
  obtain ⟨first, hhead, htoken⟩ := h
  cases lexemes with
  | nil => cases hhead
  | cons other rest =>
    obtain rfl := Option.some.inj hhead
    exact ⟨other, rest, rfl, htoken⟩

/-- What reads none of the tokens behind a clause fails there. -/
theorem token_eq_none {α : Type} {read : Token → Option α} (h : IsEnd lexemes)
    (hends : ∀ other ∈ Clause.ends, (Reader.token read [⟨other, [], []⟩]).isNone) :
    Reader.token read lexemes = none := by
  obtain ⟨first, rest, rfl, hfirst⟩ := h.exists_cons
  exact token_cons_eq_none_iff.2
    (token_cons_eq_none_iff.1 (Option.isNone_iff_eq_none.1 (hends _ hfirst)))

/-- No word goes on with a clause behind its end. -/
theorem word_eq_none (h : IsEnd lexemes) {text : String}
    (htext : text ∈ ["asc", "desc", "on", "autoincrement", "match"]) :
    word text lexemes = none := by
  have hends : ∀ other ∈ Clause.ends, ∀ text ∈ ["asc", "desc", "on", "autoincrement", "match"],
      (word text [⟨other, [], []⟩]).isNone := by
    decide
  exact h.token_eq_none fun other hother => hends other hother text htext

/-- The end of a clause is no part of a type. -/
theorem label_eq_none (h : IsEnd lexemes) : label lexemes = none :=
  h.token_eq_none (by decide)

/-- No bracket that opens follows. -/
theorem sign_eq_none (h : IsEnd lexemes) : sign "(" lexemes = none :=
  h.token_eq_none (by decide)

/-- Nothing is said of conflicts. -/
theorem words_eq_none (h : IsEnd lexemes) : words ["on", "conflict"] lexemes = none :=
  bind_of_none (h.word_eq_none (by decide))

/-- The clause for conflicts is left out. -/
theorem conflictClause_eq (h : IsEnd lexemes) : conflictClause lexemes = some ((), lexemes) :=
  bind_of_some (has_of_none h.words_eq_none)

end IsEnd

/-! ### Clauses as rules -/

section Rules

variable {a b c d : List Char}

/-- The rule for a primary key is read. -/
theorem columnRule_primaryKey (h : IsEnd later) :
    columnRule (⟨.word "PRIMARY".toList, a, b⟩ :: ⟨.word "KEY".toList, c, d⟩ :: later) =
      some (.primaryKey false false, later) := by
  unfold columnRule
  refine (orElse_of_none (by rfl)).trans <| (orElse_of_none (by rfl)).trans <|
    (orElse_of_none (by rfl)).trans <| (orElse_of_none (by rfl)).trans <|
    (orElse_of_none (by rfl)).trans <| orElse_of_some ?_
  refine (bind_of_some (by rfl)).trans ?_
  refine (bind_of_some (has_of_none (h.word_eq_none (by decide)))).trans ?_
  refine (bind_of_some (has_of_none (h.word_eq_none (by decide)))).trans ?_
  refine (bind_of_some h.conflictClause_eq).trans ?_
  exact bind_of_some (has_of_none (h.word_eq_none (by decide)))

/-- The rule that a column is never empty is read. -/
theorem columnRule_nonNull (h : IsEnd later) :
    columnRule (⟨.word "NOT".toList, a, b⟩ :: ⟨.word "NULL".toList, c, d⟩ :: later) =
      some (.nonNull, later) := by
  unfold columnRule
  refine (orElse_of_none (by rfl)).trans <| (orElse_of_none (by rfl)).trans <|
    (orElse_of_none (by rfl)).trans <| orElse_of_some ?_
  exact (bind_of_some (by rfl)).trans (bind_of_some h.conflictClause_eq)

/-- The rule that a column is unique is read. -/
theorem columnRule_unique (h : IsEnd later) :
    columnRule (⟨.word "UNIQUE".toList, a, b⟩ :: later) = some (.unique, later) := by
  unfold columnRule
  refine (orElse_of_none (by rfl)).trans <| (orElse_of_none (by rfl)).trans <|
    (orElse_of_none (by rfl)).trans <| (orElse_of_none (by rfl)).trans <| orElse_of_some ?_
  exact (bind_of_some (by rfl)).trans (bind_of_some h.conflictClause_eq)

/-- A default is read as far as its value is. -/
theorem columnRule_default {value : Expr} (h : defaultValue later = some (value, rest)) :
    columnRule (⟨.word "DEFAULT".toList, a, b⟩ :: later) = some (.default value, rest) := by
  unfold columnRule
  refine (orElse_of_none (by rfl)).trans <| orElse_of_some ?_
  exact (bind_of_some (by rfl)).trans (bind_of_some h)

/-- Without a value there is no default. -/
theorem columnRule_default_eq_none (h : defaultValue later = none) :
    columnRule (⟨.word "DEFAULT".toList, a, b⟩ :: later) = none := by
  unfold columnRule
  refine (orElse_of_none (by rfl)).trans <| (orElse_of_none ?_).trans (by rfl)
  exact (bind_of_some (by rfl)).trans (bind_of_none h)

/-- A reference is read as far as its target is. -/
theorem columnRule_references {targets : Nat}
    (h : target (⟨.word "REFERENCES".toList, a, b⟩ :: later) = some (targets, rest)) :
    columnRule (⟨.word "REFERENCES".toList, a, b⟩ :: later) = some (.references targets, rest) := by
  unfold columnRule
  refine (orElse_of_none (by rfl)).trans <| (orElse_of_none (by rfl)).trans <|
    (orElse_of_none (by rfl)).trans <| (orElse_of_none (by rfl)).trans <|
    (orElse_of_none (by rfl)).trans <| (orElse_of_none (by rfl)).trans <|
    (orElse_of_none (by rfl)).trans <| orElse_of_some ?_
  exact bind_of_some h

/-- Without a target there is no reference. -/
theorem columnRule_references_eq_none
    (h : target (⟨.word "REFERENCES".toList, a, b⟩ :: later) = none) :
    columnRule (⟨.word "REFERENCES".toList, a, b⟩ :: later) = none := by
  unfold columnRule
  refine (orElse_of_none (by rfl)).trans <| (orElse_of_none (by rfl)).trans <|
    (orElse_of_none (by rfl)).trans <| (orElse_of_none (by rfl)).trans <|
    (orElse_of_none (by rfl)).trans <| (orElse_of_none (by rfl)).trans <|
    (orElse_of_none (by rfl)).trans <| (orElse_of_none (bind_of_none h)).trans (by rfl)

/-! ### References -/

variable {table column : List Char} {e f g i j k : List Char}

/-- A word that can be a name is read as one. -/
theorem name_of_isThing {word : List Char} (h : isThing word) :
    name (⟨.word word, a, b⟩ :: later) = some (String.ofList word, later) := by
  simp [name, token, h]

/-- Any other word is not read as a name. -/
theorem name_eq_none {word : List Char} (h : isThing word = false) :
    name (⟨.word word, a, b⟩ :: later) = none := by
  simp [name, token, h]

/-- One name in brackets. -/
theorem inParentheses_list_name (h : isThing column) :
    inParentheses (list name) (⟨.opening, a, b⟩ :: ⟨.word column, c, d⟩ :: ⟨.closing, e, f⟩ ::
      later) = some ([String.ofList column], later) := by
  have hlist : list name (⟨.word column, c, d⟩ :: ⟨.closing, e, f⟩ :: later) =
      some ([String.ofList column], ⟨.closing, e, f⟩ :: later) :=
    (bind_of_some (name_of_isThing h)).trans (bind_of_some (many_of_none (by rfl)))
  exact (bind_of_some (by rfl)).trans ((bind_of_some hlist).trans (bind_of_some (by rfl)))

/-- The words for a deletion are read. -/
theorem action_eq (deletion : OnDelete) {taken : List Lexeme}
    (htaken : taken.map (·.token) = deletion.words.map .word) (later : List Lexeme) :
    action (taken ++ later) = some ((), later) := by
  cases deletion with
  | noAction =>
    obtain ⟨_, _, more, rfl, hmore⟩ := exists_of_map_token htaken
    obtain ⟨_, _, none, rfl, hnone⟩ := exists_of_map_token hmore
    obtain rfl := List.map_eq_nil_iff.1 hnone
    rfl
  | restrict =>
    obtain ⟨_, _, none, rfl, hnone⟩ := exists_of_map_token htaken
    obtain rfl := List.map_eq_nil_iff.1 hnone
    rfl
  | setNull =>
    obtain ⟨_, _, more, rfl, hmore⟩ := exists_of_map_token htaken
    obtain ⟨_, _, none, rfl, hnone⟩ := exists_of_map_token hmore
    obtain rfl := List.map_eq_nil_iff.1 hnone
    rfl
  | cascade =>
    obtain ⟨_, _, none, rfl, hnone⟩ := exists_of_map_token htaken
    obtain rfl := List.map_eq_nil_iff.1 hnone
    rfl

/-- There is no target without the name of a table. -/
theorem target_eq_none (h : isThing table = false) :
    target (⟨.word "REFERENCES".toList, a, b⟩ :: ⟨.word table, c, d⟩ :: later) = none :=
  (bind_of_some (by rfl)).trans (bind_of_none (name_eq_none h))

/-- A column whose name is no name is left where it is. -/
theorem target_of_isThing_eq_false (htable : isThing table) (hcolumn : isThing column = false) :
    target (⟨.word "REFERENCES".toList, a, b⟩ :: ⟨.word table, c, d⟩ :: ⟨.opening, e, f⟩ ::
      ⟨.word column, g, i⟩ :: later) =
        some (0, ⟨.opening, e, f⟩ :: ⟨.word column, g, i⟩ :: later) := by
  refine (bind_of_some (by rfl)).trans <| (bind_of_some (name_of_isThing htable)).trans ?_
  have hnone : inParentheses (list name)
      (⟨.opening, e, f⟩ :: ⟨.word column, g, i⟩ :: later) = none :=
    (bind_of_some (by rfl)).trans (bind_of_none (bind_of_none (name_eq_none hcolumn)))
  refine (bind_of_some (optional_of_none hnone)).trans ?_
  exact bind_of_some (many_of_none (by rfl))

/-- **A reference to a table and one column of it.** -/
theorem target_eq (htable : isThing table) (hcolumn : isThing column) {deletion : OnDelete}
    (htaken : taken.map (·.token) = deletion.words.map .word) (hlater : IsEnd later)
    {l m n o : List Char} :
    target (⟨.word "REFERENCES".toList, a, b⟩ :: ⟨.word table, c, d⟩ :: ⟨.opening, e, f⟩ ::
      ⟨.word column, g, i⟩ :: ⟨.closing, j, k⟩ :: ⟨.word "ON".toList, l, m⟩ ::
        ⟨.word "DELETE".toList, n, o⟩ :: (taken ++ later)) = some (1, later) := by
  refine (bind_of_some (by rfl)).trans <| (bind_of_some (name_of_isThing htable)).trans ?_
  refine (bind_of_some (optional_of_some (inParentheses_list_name hcolumn))).trans ?_
  refine (bind_of_some (many_of_some_of_none (?_ : _ = some ((), later)) ?_
    (List.cons_ne_nil _ _))).trans (by rfl)
  · refine (orElse_of_none (by rfl)).trans ?_
    refine (bind_of_some (by rfl)).trans <| (bind_of_some (by rfl)).trans ?_
    exact action_eq deletion htaken later
  · refine (orElse_of_none (bind_of_none (hlater.word_eq_none (by decide)))).trans ?_
    exact bind_of_none (hlater.word_eq_none (by decide))

end Rules

/-! ### What a clause stands for -/

/-- The rule that a clause stands for. -/
def Clause.Makes : Clause → ColumnRule → Prop
  | primaryKey, rule => rule = .primaryKey false false
  | nonNull, rule => rule = .nonNull
  | unique, rule => rule = .unique
  | default _, rule => ∃ value, rule = .default value
  | references _, rule => ∃ targets, rule = .references targets

/-- **A clause that is read is read as the rule that it stands for, up to its end**; otherwise nothing
can be read behind it. -/
theorem Clause.read {clause : Clause} (hplain : clause.IsPlain)
    (htaken : taken.map (·.token) = clause.tokens) (hlater : IsEnd later) {rule : ColumnRule}
    (h : columnRule (taken ++ later) = some (rule, rest)) :
    (rest = later ∧ clause.Makes rule) ∨ (IsDead rest ∧ columnRule rest = none) := by
  cases clause with
  | primaryKey =>
    obtain ⟨_, _, more, rfl, hmore⟩ := exists_of_map_token htaken
    obtain ⟨_, _, none, rfl, hnone⟩ := exists_of_map_token hmore
    obtain rfl := List.map_eq_nil_iff.1 hnone
    obtain ⟨rfl, rfl⟩ := read_unique h (columnRule_primaryKey hlater)
    exact .inl ⟨rfl, rfl⟩
  | nonNull =>
    obtain ⟨_, _, more, rfl, hmore⟩ := exists_of_map_token htaken
    obtain ⟨_, _, none, rfl, hnone⟩ := exists_of_map_token hmore
    obtain rfl := List.map_eq_nil_iff.1 hnone
    obtain ⟨rfl, rfl⟩ := read_unique h (columnRule_nonNull hlater)
    exact .inl ⟨rfl, rfl⟩
  | unique =>
    obtain ⟨_, _, none, rfl, hnone⟩ := exists_of_map_token htaken
    obtain rfl := List.map_eq_nil_iff.1 hnone
    obtain ⟨rfl, rfl⟩ := read_unique h (columnRule_unique hlater)
    exact .inl ⟨rfl, rfl⟩
  | default text =>
    obtain ⟨_, _, value, rfl, hvalue⟩ := exists_of_map_token htaken
    rw [List.cons_append] at h
    cases hdefault : defaultValue (value ++ later) with
    | none =>
      cases h.symm.trans (columnRule_default_eq_none hdefault)
    | some found =>
      obtain ⟨rfl, rfl⟩ := read_unique h (columnRule_default hdefault)
      have hshape := (IsOneValue.exists_tokens hplain).2
      rw [← hvalue] at hshape
      exact .inl ⟨rest_of_defaultValue hshape hdefault, _, rfl⟩
  | references key =>
    obtain ⟨_, _, _, rfl, h1⟩ := exists_of_map_token htaken
    obtain ⟨_, _, _, rfl, h2⟩ := exists_of_map_token h1
    obtain ⟨_, _, _, rfl, h3⟩ := exists_of_map_token h2
    obtain ⟨_, _, _, rfl, h4⟩ := exists_of_map_token h3
    obtain ⟨_, _, _, rfl, h5⟩ := exists_of_map_token h4
    obtain ⟨_, _, _, rfl, h6⟩ := exists_of_map_token h5
    obtain ⟨_, _, deletion, rfl, hdeletion⟩ := exists_of_map_token h6
    by_cases htable : isThing key.table.toList
    · by_cases hcolumn : isThing key.column.toList
      · obtain ⟨rfl, rfl⟩ := read_unique h
          (columnRule_references (target_eq htable hcolumn hdeletion hlater))
        exact .inl ⟨rfl, _, rfl⟩
      · obtain ⟨rfl, rfl⟩ := read_unique h
          (columnRule_references (target_of_isThing_eq_false htable (Bool.eq_false_iff.2 hcolumn)))
        exact .inr ⟨isDead_cons (by decide) (by decide), by rfl⟩
    · cases h.symm.trans (columnRule_references_eq_none (target_eq_none (Bool.eq_false_iff.2 htable)))

/-! ### All clauses -/

/-- The first token is one that stands behind a column. -/
def EndsColumn (lexemes : List Lexeme) : Prop :=
  ∃ lexeme ∈ lexemes.head?, lexeme.token = .comma ∨ lexeme.token = .closing

/-- What stands behind a column can stand behind a clause. -/
theorem EndsColumn.isEnd (h : EndsColumn later) : IsEnd later := by
  obtain ⟨lexeme, hhead, htoken⟩ := h
  refine ⟨lexeme, hhead, ?_⟩
  rcases htoken with htoken | htoken
  · simp [htoken, Clause.ends]
  · simp [htoken, Clause.ends]

/-- No rule is read behind a column. -/
theorem EndsColumn.columnRule_eq_none (h : EndsColumn later) : columnRule later = none := by
  obtain ⟨lexeme, hhead, htoken⟩ := h
  cases later with
  | nil => cases hhead
  | cons first rest =>
    obtain rfl := Option.some.inj hhead
    obtain ⟨token, start, stop⟩ := first
    rcases htoken with rfl | rfl
    · rfl
    · rfl

/-- Clauses start with a clause, or what stands behind them follows. -/
theorem isEnd_append {clauses : List Clause}
    (htaken : taken.map (·.token) = clauses.flatMap Clause.tokens) (hlater : IsEnd later) :
    IsEnd (taken ++ later) := by
  cases clauses with
  | nil =>
    obtain rfl := List.map_eq_nil_iff.1 htaken
    exact hlater
  | cons clause clauses =>
    have hhead : ∃ token tokens, (clause :: clauses).flatMap Clause.tokens = token :: tokens ∧
        token ∈ Clause.ends := by
      cases clause with
      | primaryKey => exact ⟨_, _, rfl, by decide⟩
      | nonNull => exact ⟨_, _, rfl, by decide⟩
      | unique => exact ⟨_, _, rfl, by decide⟩
      | default value => exact ⟨_, _, rfl, by decide⟩
      | references key => exact ⟨_, _, rfl, by decide⟩
    obtain ⟨token, tokens, htokens, hmem⟩ := hhead
    rw [htokens] at htaken
    obtain ⟨_, _, _, rfl, -⟩ := exists_of_map_token htaken
    exact ⟨_, rfl, hmem⟩

/-- A clause ends no column. -/
theorem Clause.isDead {clause : Clause} (htaken : taken.map (·.token) = clause.tokens) :
    IsDead (taken ++ later) := by
  have hhead : ∃ token tokens, clause.tokens = token :: tokens ∧ token ≠ .comma ∧
      token ≠ .closing := by
    cases clause with
    | primaryKey => exact ⟨_, _, rfl, by decide, by decide⟩
    | nonNull => exact ⟨_, _, rfl, by decide, by decide⟩
    | unique => exact ⟨_, _, rfl, by decide, by decide⟩
    | default value => exact ⟨_, _, rfl, by decide, by decide⟩
    | references key => exact ⟨_, _, rfl, by decide, by decide⟩
  obtain ⟨token, tokens, htokens, hcomma, hclosing⟩ := hhead
  rw [htokens] at htaken
  obtain ⟨_, _, _, rfl, -⟩ := exists_of_map_token htaken
  exact isDead_cons hcomma hclosing

/-- Fuel for several parts is enough for the parts behind the first. -/
theorem exists_fuel {α : Type} {part : α} {parts : List α} {fuel : Nat}
    (h : (part :: parts).length ≤ fuel) : ∃ less, fuel = less + 1 ∧ parts.length ≤ less := by
  rw [List.length_cons] at h
  exact ⟨fuel - 1, by omega, by omega⟩

/-- **Clauses are read one by one as the rules that they stand for, unless the reader gets stuck.** -/
theorem upTo_clauses {clauses : List Clause} (hplain : ∀ clause ∈ clauses, clause.IsPlain)
    (htaken : taken.map (·.token) = clauses.flatMap Clause.tokens) (hlater : EndsColumn later)
    {fuel : Nat} (hfuel : clauses.length ≤ fuel) {rules : List ColumnRule}
    (h : upTo columnRule fuel (taken ++ later) = some (rules, rest)) :
    (rest = later ∧ List.Forall₂ Clause.Makes clauses rules) ∨ IsDead rest := by
  induction clauses generalizing fuel taken rules with
  | nil =>
    obtain rfl := List.map_eq_nil_iff.1 htaken
    have hnone := upTo_of_none (EndsColumn.columnRule_eq_none hlater) fuel
    obtain ⟨rfl, rfl⟩ := read_unique h hnone
    exact .inl ⟨rfl, .nil⟩
  | cons clause clauses ih =>
    obtain ⟨fuel, rfl, hless⟩ := exists_fuel hfuel
    obtain ⟨first, second, rfl, hfirst, hsecond⟩ := List.map_eq_append_iff.1 htaken
    have hend := isEnd_append hsecond hlater.isEnd
    rw [List.append_assoc] at h
    cases hrule : columnRule (first ++ (second ++ later)) with
    | none =>
      obtain ⟨-, rfl⟩ := read_unique h (upTo_of_none hrule _)
      exact .inr (Clause.isDead hfirst)
    | some found =>
      obtain ⟨rule, middle⟩ := found
      obtain ⟨others, rfl, hothers⟩ := exists_of_upTo_of_some hrule h
      rcases Clause.read (hplain clause List.mem_cons_self) hfirst hend hrule with
        ⟨rfl, hmakes⟩ | ⟨hdead, hnone⟩
      · rcases ih (List.forall_mem_of_forall_mem_cons hplain) hsecond hless
          hothers with ⟨rfl, hrules⟩ | hdead
        · exact .inl ⟨rfl, .cons hmakes hrules⟩
        · exact .inr hdead
      · obtain ⟨-, rfl⟩ := read_unique hothers (upTo_of_none hnone _)
        exact .inr hdead

end TodoLedger.Schema
