import Mathlib.Tactic.Common
import TodoLedger.Sql.Reader

/-!
# Steps of readers

* What the operations that build readers do with a list of lexemes, in general (`bind_apply`,
  `orElse_apply`, `optional_apply`) and where it is known what a part does (`bind_of_some`,
  `orElse_of_none`, `has_of_none`).
* A reader that is used as often as it can stops where it fails (`many_of_none`), and otherwise goes
  on behind what it took (`exists_of_upTo_of_some`).
-/

namespace TodoLedger.Sql.Reader

variable {α β : Type} {lexemes rest : List Lexeme}

/-! ### In general -/

/-- The second reader goes on where the first stopped. -/
theorem bind_apply (reader : Reader α) (next : α → Reader β) (lexemes : List Lexeme) :
    (reader >>= next) lexemes = (reader lexemes).bind fun (value, rest) => next value rest := rfl

/-- A value of choice takes no token. -/
theorem pure_apply (value : α) (lexemes : List Lexeme) :
    (pure value : Reader α) lexemes = some (value, lexemes) := rfl

/-- What a reader takes is determined. -/
theorem read_unique {reader : Reader α} {value other : α} {later : List Lexeme}
    (h : reader lexemes = some (value, rest)) (hother : reader lexemes = some (other, later)) :
    value = other ∧ rest = later :=
  Prod.mk.inj (Option.some.inj (h.symm.trans hother))

/-- It leaves all tokens, and is what was found. -/
theorem eq_of_pure {value found : α} (h : (pure value : Reader α) lexemes = some (found, rest)) :
    value = found ∧ lexemes = rest :=
  Prod.mk.inj (Option.some.inj h)

/-- What follows can be looked at. -/
theorem get_apply (lexemes : List Lexeme) :
    (get : Reader (List Lexeme)) lexemes = some (lexemes, lexemes) := rfl

/-- The second reader of a choice is used where the first fails. -/
theorem orElse_apply (first second : Reader α) (lexemes : List Lexeme) :
    (first <|> second) lexemes = (first lexemes).or (second lexemes) := by
  change (first lexemes <|> second lexemes) = _
  cases first lexemes <;> rfl

/-- What is left behind a reader whose part may be missing. -/
theorem optional_apply (reader : Reader α) (lexemes : List Lexeme) :
    optional reader lexemes = some (match reader lexemes with
      | some (value, rest) => (some value, rest)
      | none => (none, lexemes)) := by
  rw [optional, orElse_apply, bind_apply, pure_apply]
  cases reader lexemes <;> rfl

/-- What a reader of one token takes. -/
theorem token_eq_some_iff {read : Token → Option α} {value : α} :
    token read lexemes = some (value, rest) ↔
      ∃ lexeme, lexemes = lexeme :: rest ∧ read lexeme.token = some value := by
  cases lexemes with
  | nil => simp [token]
  | cons lexeme later =>
    simp only [token, Option.map_eq_some_iff, Prod.mk.injEq, List.cons.injEq]
    constructor
    · rintro ⟨found, hfound, rfl, rfl⟩
      exact ⟨lexeme, ⟨rfl, rfl⟩, hfound⟩
    · rintro ⟨_, ⟨rfl, rfl⟩, hfound⟩
      exact ⟨value, hfound, rfl, rfl⟩

/-- Whether one token is taken depends on nothing but the token. -/
theorem token_cons_eq_none_iff {read : Token → Option α} {lexeme : Lexeme} :
    token read (lexeme :: rest) = none ↔ read lexeme.token = none := by
  simp [token]

/-- A sign is read if it is the first token. -/
theorem sign_eq_some_iff {text : String} :
    sign text lexemes = some ((), rest) ↔
      ∃ lexeme, lexemes = lexeme :: rest ∧ lexeme.token = .sign text.toList := by
  simp only [sign, token_eq_some_iff, ite_eq_left_iff, reduceCtorEq, imp_false, not_not]

/-- What is left behind a reader that may take something. -/
theorem has_eq_some_iff {reader : Reader Unit} {found : Bool} :
    has reader lexemes = some (found, rest) ↔
      (found = true ∧ reader lexemes = some ((), rest)) ∨
        (found = false ∧ reader lexemes = none ∧ rest = lexemes) := by
  have htrue : (do reader; pure true : Reader Bool) lexemes =
      (reader lexemes).map fun (_, rest) => (true, rest) := by
    rw [bind_apply]
    cases reader lexemes <;> rfl
  rw [has, orElse_apply, htrue, pure_apply]
  cases reader lexemes with
  | none =>
    simp only [Option.map_none, Option.none_or, Option.some.injEq, Prod.mk.injEq, reduceCtorEq,
      and_false, true_and, false_or]
    exact and_congr eq_comm eq_comm
  | some taken =>
    obtain ⟨⟨⟩, later⟩ := taken
    simp only [Option.map_some, Option.some_or, Option.some.injEq, Prod.mk.injEq, true_and,
      reduceCtorEq, false_and, and_false, or_false]
    exact and_congr_left' eq_comm

/-- The first of the lexemes whose tokens are known. -/
theorem exists_of_map_token {first : Token} {tokens : List Token}
    (h : lexemes.map (·.token) = first :: tokens) :
    ∃ start stop later, lexemes = ⟨first, start, stop⟩ :: later ∧ later.map (·.token) = tokens := by
  obtain ⟨lexeme, later, rfl, rfl, hlater⟩ := List.map_eq_cons_iff.1 h
  exact ⟨lexeme.start, lexeme.stop, later, rfl, hlater⟩

/-! ### One step -/

variable {reader first second : Reader α} {value : α}

/-- What is read first is handed on. -/
theorem bind_of_some {next : α → Reader β} (h : reader lexemes = some (value, rest)) :
    (reader >>= next) lexemes = next value rest := by
  rw [bind_apply, h, Option.bind_some]

/-- Nothing is read after a failure. -/
theorem bind_of_none {next : α → Reader β} (h : reader lexemes = none) :
    (reader >>= next) lexemes = none := by
  rw [bind_apply, h, Option.bind_none]

/-- What a reader in two steps took, step by step. -/
theorem exists_of_bind {next : α → Reader β} {found : β}
    (h : (reader >>= next) lexemes = some (found, rest)) :
    ∃ value middle, reader lexemes = some (value, middle) ∧ next value middle = some (found, rest) := by
  rw [bind_apply] at h
  obtain ⟨⟨value, middle⟩, hvalue, hnext⟩ := Option.bind_eq_some_iff.1 h
  exact ⟨value, middle, hvalue, hnext⟩

/-- The first reader of a choice decides if it reads something. -/
theorem orElse_of_some {found : α × List Lexeme} (h : first lexemes = some found) :
    (first <|> second) lexemes = some found := by
  rw [orElse_apply, h, Option.some_or]

/-- The second one decides if the first fails. -/
theorem orElse_of_none (h : first lexemes = none) :
    (first <|> second) lexemes = second lexemes := by
  rw [orElse_apply, h, Option.none_or]

/-- Another sign is not read. -/
theorem sign_eq_none {text : String} {lexeme : Lexeme} (h : lexeme.token ≠ .sign text.toList) :
    sign text (lexeme :: rest) = none :=
  token_cons_eq_none_iff.2 (if_neg h)

/-- Another word is not read. -/
theorem word_eq_none {text : String} {word : List Char} {start stop : List Char}
    (h : word.map Char.toLower ≠ text.toList) :
    Reader.word text (⟨.word word, start, stop⟩ :: rest) = none :=
  token_cons_eq_none_iff.2 (if_neg h)

/-- Behind a word that may be the right one the next step fails. -/
theorem word_bind_eq_none {text : String} {next : Unit → Reader α} {lexeme : Lexeme}
    (h : next () rest = none) : (word text >>= next) (lexeme :: rest) = none := by
  cases hword : word text (lexeme :: rest) with
  | none => exact bind_of_none hword
  | some found =>
    obtain ⟨⟨⟩, later⟩ := found
    obtain ⟨_, hlexemes, -⟩ := token_eq_some_iff.1 hword
    obtain ⟨-, rfl⟩ := List.cons.inj hlexemes
    exact (bind_of_some hword).trans h

/-- What is not there is not taken. -/
theorem has_of_none {reader : Reader Unit} (h : reader lexemes = none) :
    has reader lexemes = some (false, lexemes) :=
  has_eq_some_iff.2 (.inr ⟨rfl, h, rfl⟩)

/-- What may be left out is read if it is there. -/
theorem optional_of_some (h : reader lexemes = some (value, rest)) :
    optional reader lexemes = some (some value, rest) := by
  rw [optional_apply, h]

/-- Otherwise nothing is read. -/
theorem optional_of_none (h : reader lexemes = none) :
    optional reader lexemes = some (none, lexemes) := by
  rw [optional_apply, h]

/-- The text of one lexeme is what stands in front of what follows it. -/
theorem text_of_some {reader : Reader Unit} {lexeme : Lexeme} {word : List Char}
    (h : reader (lexeme :: rest) = some ((), rest)) (hstart : lexeme.start = word ++ lexeme.stop) :
    text reader (lexeme :: rest) = some (String.ofList word, rest) := by
  have htaken : (lexeme :: rest).take ((lexeme :: rest).length - rest.length) = [lexeme] := by
    simp
  have htext : lexeme.start.take (lexeme.start.length - lexeme.stop.length) = word := by
    simp [hstart]
  refine (bind_of_some (get_apply _)).trans <| (bind_of_some h).trans <|
    (bind_of_some (get_apply _)).trans ?_
  rw [htaken]
  exact congrArg (fun text => some (String.ofList text, rest)) htext

/-! ### Many steps -/

/-- Of what is not there none are read, whatever the fuel. -/
theorem upTo_of_none (h : reader lexemes = none) (fuel : Nat) :
    upTo reader fuel lexemes = some ([], lexemes) := by
  cases fuel with
  | zero => rfl
  | succ fuel => exact orElse_of_none (bind_of_none h)

/-- Taking many things never fails. -/
theorem exists_upTo (reader : Reader α) (fuel : Nat) (lexemes : List Lexeme) :
    ∃ values rest, upTo reader fuel lexemes = some (values, rest) := by
  induction fuel generalizing lexemes with
  | zero => exact ⟨[], lexemes, rfl⟩
  | succ fuel ih =>
    cases h : reader lexemes with
    | none => exact ⟨[], lexemes, upTo_of_none h _⟩
    | some found =>
      obtain ⟨values, rest, hvalues⟩ := ih found.2
      exact ⟨found.1 :: values, rest, orElse_of_some ((bind_of_some h).trans (bind_of_some hvalues))⟩

/-- What is taken behind the first of many things. -/
theorem exists_of_upTo_of_some {fuel : Nat} {middle : List Lexeme} {values : List α}
    (h : reader lexemes = some (value, middle))
    (hall : upTo reader (fuel + 1) lexemes = some (values, rest)) :
    ∃ later, values = value :: later ∧ upTo reader fuel middle = some (later, rest) := by
  obtain ⟨later, after, hlater⟩ := exists_upTo reader fuel middle
  have hfirst : upTo reader (fuel + 1) lexemes = some (value :: later, after) :=
    orElse_of_some ((bind_of_some h).trans (bind_of_some hlater))
  rw [hfirst, Option.some.injEq, Prod.mk.injEq] at hall
  obtain ⟨rfl, rfl⟩ := hall
  exact ⟨later, rfl, hlater⟩

/-- Of what is not there none are read. -/
theorem many_of_none (h : reader lexemes = none) : many reader lexemes = some ([], lexemes) :=
  upTo_of_none h _

/-- One thing is taken, and nothing behind it. -/
theorem many_of_some_of_none (h : reader lexemes = some (value, rest)) (hrest : reader rest = none)
    (hne : lexemes ≠ []) : many reader lexemes = some ([value], rest) := by
  obtain ⟨fuel, hfuel⟩ := Nat.exists_eq_succ_of_ne_zero (mt List.length_eq_zero_iff.1 hne)
  change upTo reader lexemes.length lexemes = _
  rw [hfuel]
  exact orElse_of_some ((bind_of_some h).trans (bind_of_some (upTo_of_none hrest fuel)))

end TodoLedger.Sql.Reader
