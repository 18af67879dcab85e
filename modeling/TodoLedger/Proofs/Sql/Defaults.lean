import Mathlib.Data.Option.Basic
import TodoLedger.Proofs.Sql.Brackets
import TodoLedger.Proofs.Sql.Spelling
import TodoLedger.Sql.Statement.Parser

/-!
# Defaults that are one value

* What is read as a default has one of three shapes (`IsDefaultShape`): a token behind a sign, a
  token that is none, or balanced tokens in brackets (`exists_of_defaultValue`). No such shape is the
  start of another (`IsDefaultShape.append_inj`).
* `IsOneValue text`: the text is a default and nothing more. **Wherever such a text stands before a
  break, a default that is read there ends where the text ends** (`rest_of_defaultValue`).
-/

namespace TodoLedger.Sql

variable {tokens more first second : List Token}

/-! ### Shapes -/

/-- A sign in front of a number. -/
def Token.isSignOfNumber (token : Token) : Bool := token = .sign ['+'] || token = .sign ['-']

/-- The tokens that a default can have. -/
inductive IsDefaultShape : List Token → Prop where
  | signed {sign value : Token} (h : sign.isSignOfNumber) : IsDefaultShape [sign, value]
  | single {value : Token} (hsign : value.isSignOfNumber = false) (hopening : value ≠ .opening) :
      IsDefaultShape [value]
  | enclosed {inner : List Token} (h : Balanced inner) :
      IsDefaultShape (.opening :: (inner ++ [.closing]))

/-- **The tokens of one default are not the start of those of another.** -/
theorem IsDefaultShape.append_inj (hfirst : IsDefaultShape first) (hsecond : IsDefaultShape second)
    (h : first ++ tokens = second ++ more) : first = second ∧ tokens = more := by
  cases hfirst with
  | signed hsign =>
    cases hsecond with
    | signed => simp_all
    | single hnone =>
      obtain ⟨rfl, -⟩ := List.cons.inj h
      rw [hsign] at hnone
      cases hnone
    | enclosed =>
      obtain ⟨rfl, -⟩ := List.cons.inj h
      cases hsign
  | single hnone hopening =>
    cases hsecond with
    | signed hsign =>
      obtain ⟨rfl, -⟩ := List.cons.inj h
      rw [hsign] at hnone
      cases hnone
    | single => simp_all
    | enclosed => exact absurd (List.cons.inj h).1 hopening
  | enclosed hinner =>
    cases hsecond with
    | signed hsign =>
      obtain ⟨rfl, -⟩ := List.cons.inj h
      cases hsign
    | single _ hopening => exact absurd (List.cons.inj h).1.symm hopening
    | enclosed hother =>
      simp only [List.cons_append, List.append_assoc, List.nil_append, List.cons.injEq,
        true_and] at h
      obtain ⟨rfl, rfl⟩ := hinner.append_cons_inj hother h
      exact ⟨rfl, rfl⟩

namespace Reader

variable {α : Type} {lexemes rest : List Lexeme} {value : Expr}

/-- The reader takes nothing. -/
def TakesNone (reader : Reader α) : Prop :=
  ∀ lexemes value rest, reader lexemes = some (value, rest) → lexemes = rest

/-- A value of choice takes no token. -/
theorem takesNone_pure (value : α) : TakesNone (pure value) := by
  intro lexemes found rest h
  exact (Prod.mk.inj (Option.some.inj h)).2

/-- Nor does a condition before it. -/
theorem takesNone_guard (p : Prop) [Decidable p] (value : α) :
    TakesNone (do guard p; pure value) := by
  intro lexemes found rest h
  unfold guard at h
  split at h
  · exact (Prod.mk.inj (Option.some.inj h)).2
  · cases h

/-- The reader takes one token, which is no sign. -/
def TakesOne (reader : Reader α) : Prop :=
  ∀ lexemes value rest, reader lexemes = some (value, rest) →
    ∃ lexeme, lexemes = lexeme :: rest ∧ ∀ text, lexeme.token ≠ .sign text

/-- A token that decides how to go on is the only one taken. -/
theorem takesOne_anyToken_bind {next : Token → Reader α} (hsign : ∀ text, next (.sign text) = failure)
    (hnext : ∀ token, TakesNone (next token)) : TakesOne (anyToken >>= next) := by
  intro lexemes value rest h
  obtain ⟨token, later, htoken, hlater⟩ := exists_of_bind h
  obtain ⟨lexeme, rfl, hfound⟩ := token_eq_some_iff.1 htoken
  obtain rfl := Option.some.inj hfound
  obtain rfl := hnext _ _ _ _ hlater
  refine ⟨lexeme, rfl, fun text hlexeme => ?_⟩
  rw [hlexeme, hsign] at hlater
  cases hlater

/-- A sign that a reader takes to give its text. -/
theorem exists_of_sign_return {sign text : String} {found : String}
    (h : (do Reader.sign sign; return text : Reader String) lexemes = some (found, rest)) :
    ∃ first, lexemes = first :: rest ∧ first.token = .sign sign.toList := by
  obtain ⟨_, later, hsign, hpure⟩ := exists_of_bind h
  obtain rfl := takesNone_pure _ _ _ _ hpure
  exact sign_eq_some_iff.1 hsign

/-- Behind a sign there is one token; without one there may be an expression in brackets. -/
theorem exists_of_signed {next : Option String → Reader Expr} (hnext : ∀ signed, TakesOne (next signed))
    (h : (do
      let signed ← optional ((do sign "-"; return "-") <|> (do sign "+"; return ""))
      if signed.isNone then
        if let some value ← optional (inParentheses expression) then return value
      next signed : Reader Expr) lexemes = some (value, rest)) :
    ∃ taken, lexemes = taken ++ rest ∧ IsDefaultShape (taken.map (·.token)) := by
  rw [bind_apply, optional_apply, Option.bind_some] at h
  cases hsign : ((do sign "-"; return "-") <|> (do sign "+"; return "") : Reader String) lexemes with
  | some found =>
    obtain ⟨text, later⟩ := found
    rw [hsign] at h
    have hfirst : ∃ first, lexemes = first :: later ∧ first.token.isSignOfNumber := by
      rw [orElse_apply, Option.or_eq_some_iff] at hsign
      rcases hsign with hsign | ⟨-, hsign⟩
      · obtain ⟨first, rfl, hfirst⟩ := exists_of_sign_return hsign
        exact ⟨first, rfl, by rw [hfirst]; rfl⟩
      · obtain ⟨first, rfl, hfirst⟩ := exists_of_sign_return hsign
        exact ⟨first, rfl, by rw [hfirst]; rfl⟩
    obtain ⟨first, rfl, hfirst⟩ := hfirst
    obtain ⟨lexeme, rfl, -⟩ := hnext _ _ _ _ h
    exact ⟨[first, lexeme], rfl, .signed hfirst⟩
  | none =>
    rw [hsign] at h
    have h : ((optional (inParentheses expression) >>= fun
        | some value => pure value
        | _ => next none) : Reader Expr) lexemes = some (value, rest) := h
    rw [bind_apply, optional_apply, Option.bind_some] at h
    cases hinner : inParentheses expression lexemes with
    | some found =>
      rw [hinner] at h
      obtain rfl : found.2 = rest := takesNone_pure _ _ _ _ h
      obtain ⟨first, inner, last, rfl, hfirst, hbalanced, hlast⟩ :=
        exists_of_inParentheses nests_expression hinner
      refine ⟨first :: (inner ++ [last]), by simp, ?_⟩
      rw [List.map_cons, List.map_append, List.map_singleton, hfirst, hlast]
      exact .enclosed hbalanced
    | none =>
      rw [hinner] at h
      obtain ⟨lexeme, rfl, hlexeme⟩ := hnext _ _ _ _ h
      refine ⟨[lexeme], rfl, .single ?_ (hlexeme _)⟩
      simp [Token.isSignOfNumber, hlexeme]

/-- **What is read as a default has the shape of one.** -/
theorem exists_of_defaultValue (h : defaultValue lexemes = some (value, rest)) :
    ∃ taken, lexemes = taken ++ rest ∧ IsDefaultShape (taken.map (·.token)) := by
  unfold defaultValue at h
  refine exists_of_signed (fun signed => ?_) h
  refine takesOne_anyToken_bind (fun _ => rfl) fun token => ?_
  split
  · exact takesNone_pure _
  · exact takesNone_pure _
  · exact takesNone_pure _
  · exact takesNone_pure _
  · exact takesNone_guard _ _
  · split
    · exact takesNone_pure _
    · split
      · exact takesNone_pure _
      · exact takesNone_guard _ _
  · intro _ _ _ h
    cases h

/-- A default that is read in front of other lexemes ends where its tokens end. -/
theorem rest_of_defaultValue {taken : List Lexeme} (hshape : IsDefaultShape (taken.map (·.token)))
    {later : List Lexeme} (h : defaultValue (taken ++ later) = some (value, rest)) :
    rest = later := by
  obtain ⟨other, hother, hotherShape⟩ := exists_of_defaultValue h
  have htokens := congrArg (List.map (·.token)) hother
  rw [List.map_append, List.map_append] at htokens
  have hlength := congrArg List.length (hshape.append_inj hotherShape htokens).1
  rw [List.length_map, List.length_map] at hlength
  exact (List.append_inj hother hlength).2.symm

end Reader

/-! ### Texts that are one value -/

/-- The text is a default, and nothing stands behind it. -/
def IsOneValue (text : String) : Prop :=
  '\x00' ∉ text.toList ∧
    ∃ value, Reader.defaultValue (lexemes (' ' :: text.toList ++ [','])) = some (value, lexemes [','])

instance (text : String) : Decidable (IsOneValue text) :=
  decidable_of_iff ('\x00' ∉ text.toList ∧
    (Reader.defaultValue (lexemes (' ' :: text.toList ++ [',']))).any
      fun (_, rest) => rest = lexemes [',']) <| by
    rw [IsOneValue, Option.any_eq_true]
    simp

/-- The tokens of a default. -/
def defaultTokens (text : String) : List Token := (tokensOf (' ' :: text.toList ++ [','])).dropLast

variable {text : String}

/-- What is one value is read up to a comma behind it. -/
theorem IsOneValue.exists_taken (h : IsOneValue text) :
    ∃ taken, lexed (' ' :: text.toList ++ [',']) = taken ++ lexed [','] ∧
      IsDefaultShape (taken.map (·.token)) := by
  obtain ⟨hnul, value, hvalue⟩ := h
  have hwhole : ∀ c ∈ ' ' :: text.toList ++ [','], decide (c ≠ '\x00') := by
    intro c hc
    rw [decide_eq_true_eq]
    rintro rfl
    simp [hnul] at hc
  rw [lexemes_eq, List.takeWhile_eq_self_iff.2 hwhole] at hvalue
  exact Reader.exists_of_defaultValue hvalue

/-- What is one value is spelled by its tokens, which have the shape of a default. -/
theorem IsOneValue.exists_tokens (h : IsOneValue text) :
    Spells (' ' :: text.toList) (defaultTokens text) ∧ IsDefaultShape (defaultTokens text) := by
  obtain ⟨taken, htaken, hshape⟩ := h.exists_taken
  have htokens : defaultTokens text = taken.map (·.token) := by
    rw [defaultTokens, tokensOf, htaken, List.map_append]
    exact List.dropLast_concat
  rw [htokens]
  exact ⟨spells_of_lexed htaken, hshape⟩

example : IsOneValue "-5" ∧ IsOneValue "(1 + (2))" ∧ ¬ IsOneValue "0 NOT NULL" := by decide +kernel

end TodoLedger.Sql
