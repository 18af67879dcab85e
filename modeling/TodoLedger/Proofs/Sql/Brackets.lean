import TodoLedger.Proofs.Sql.Reader
import TodoLedger.Sql.Expr.Parser

/-!
# Brackets in what readers take

* A list of tokens is balanced if every bracket in it is closed in it (`Balanced`). A closing bracket
  behind balanced tokens is found at one place only (`Balanced.append_cons_inj`).
* **All readers of expressions take balanced tokens** (`nests_expression`).
-/

namespace TodoLedger.Sql

/-! ### Balanced tokens -/

/-- The opening bracket. -/
def Token.opening : Token := .sign ['(']

/-- The closing bracket. -/
def Token.closing : Token := .sign [')']

/-- The depth behind a token, unless it closes a bracket that is not open. -/
def Token.depthAfter (depth : Nat) (token : Token) : Option Nat :=
  if token = .opening then some (depth + 1)
  else if token = .closing then if depth = 0 then none else some (depth - 1)
  else some depth

/-- Every bracket is closed, and none is closed that was not opened. -/
def Balanced (tokens : List Token) : Prop :=
  ∀ depth, tokens.foldlM Token.depthAfter depth = some depth

namespace Balanced

/-- No tokens are balanced. -/
theorem nil : Balanced [] := fun _ => rfl

/-- Balanced tokens one after the other are balanced. -/
theorem append {first second : List Token} (hfirst : Balanced first) (hsecond : Balanced second) :
    Balanced (first ++ second) := fun depth => by
  rw [List.foldlM_append, hfirst]
  exact hsecond depth

/-- A token that is no bracket is balanced. -/
theorem singleton {token : Token} (hopening : token ≠ .opening) (hclosing : token ≠ .closing) :
    Balanced [token] := fun depth => by
  simp [Token.depthAfter, hopening, hclosing]

/-- Tokens without brackets are balanced. -/
theorem of_not_mem {tokens : List Token} (hopening : Token.opening ∉ tokens)
    (hclosing : Token.closing ∉ tokens) : Balanced tokens := by
  induction tokens with
  | nil => exact nil
  | cons token tokens ih =>
    rw [List.mem_cons, not_or] at hopening hclosing
    exact (singleton (Ne.symm hopening.1) (Ne.symm hclosing.1)).append (ih hopening.2 hclosing.2)

/-- What stands in brackets. -/
theorem enclosed {tokens : List Token} (h : Balanced tokens) :
    Balanced (.opening :: (tokens ++ [.closing])) := fun depth => by
  have hinner : tokens.foldlM Token.depthAfter (depth + 1) = some (depth + 1) := h (depth + 1)
  simp [Token.depthAfter, List.foldlM_cons, List.foldlM_append, hinner, Token.opening,
    Token.closing]

/-- **The bracket that closes what is balanced is found at one place only.** -/
theorem append_cons_inj {first second after later : List Token} (hfirst : Balanced first)
    (hsecond : Balanced second) (h : first ++ .closing :: after = second ++ .closing :: later) :
    first = second ∧ after = later := by
  have hnone {tokens more : List Token} (htokens : Balanced tokens) :
      ¬ Balanced (tokens ++ .closing :: more) := fun hall => by
    have hdepth := hall 0
    rw [List.foldlM_append, htokens] at hdepth
    cases hdepth
  rcases List.append_eq_append_iff.1 h with ⟨more, hmore, hafter⟩ | ⟨more, hmore, hafter⟩
  · cases more with
    | nil =>
      obtain ⟨-, rfl⟩ := List.cons.inj hafter
      exact ⟨by simpa using hmore.symm, rfl⟩
    | cons token more =>
      obtain ⟨rfl, -⟩ := List.cons.inj hafter
      rw [hmore] at hsecond
      exact absurd hsecond (hnone hfirst)
  · cases more with
    | nil =>
      obtain ⟨-, rfl⟩ := List.cons.inj hafter
      exact ⟨by simpa using hmore, rfl⟩
    | cons token more =>
      obtain ⟨rfl, -⟩ := List.cons.inj hafter
      rw [hmore] at hfirst
      exact absurd hfirst (hnone hsecond)

end Balanced

/-! ### Readers -/

namespace Reader

variable {α β : Type} {lexemes rest : List Lexeme}

/-- What a reader takes has all its brackets closed. -/
def Nests (reader : Reader α) : Prop :=
  ∀ lexemes value rest, reader lexemes = some (value, rest) →
    ∃ taken, lexemes = taken ++ rest ∧ Balanced (taken.map (·.token))

/-- What takes nothing closes all brackets. -/
theorem nests_pure (value : α) : Nests (pure value) := by
  intro lexemes found rest h
  obtain ⟨-, rfl⟩ := eq_of_pure h
  exact ⟨[], rfl, .nil⟩

/-- What fails takes nothing. -/
theorem nests_failure : Nests (failure : Reader α) := by
  intro lexemes found rest h
  cases h

/-- A condition takes nothing. -/
theorem nests_guard (p : Prop) [Decidable p] : Nests (guard p) := by
  unfold guard
  split
  · exact nests_pure _
  · exact nests_failure

/-- Readers one after the other close their brackets if each does. -/
theorem Nests.bind {reader : Reader α} {next : α → Reader β} (hreader : Nests reader)
    (hnext : ∀ value, Nests (next value)) : Nests (reader >>= next) := by
  intro lexemes value rest h
  obtain ⟨first, middle, hfirst, hrest⟩ := exists_of_bind h
  obtain ⟨taken, rfl, htaken⟩ := hreader _ _ _ hfirst
  obtain ⟨more, rfl, hmore⟩ := hnext first _ _ _ hrest
  refine ⟨taken ++ more, (List.append_assoc _ _ _).symm, ?_⟩
  rw [List.map_append]
  exact htaken.append hmore

/-- A choice closes its brackets if both readers do. -/
theorem Nests.orElse {first second : Reader α} (hfirst : Nests first) (hsecond : Nests second) :
    Nests (first <|> second) := by
  intro lexemes value rest h
  rw [orElse_apply, Option.or_eq_some_iff] at h
  rcases h with h | ⟨-, h⟩
  · exact hfirst _ _ _ h
  · exact hsecond _ _ _ h

/-- A reader of one token that is no bracket. -/
theorem nests_token {read : Token → Option α} (hopening : read .opening = none)
    (hclosing : read .closing = none) : Nests (token read) := by
  intro lexemes value rest h
  obtain ⟨lexeme, rfl, hread⟩ := token_eq_some_iff.1 h
  refine ⟨[lexeme], rfl, .singleton (fun htoken => ?_) fun htoken => ?_⟩
  · have htoken : lexeme.token = .opening := htoken
    rw [htoken, hopening] at hread
    cases hread
  · have htoken : lexeme.token = .closing := htoken
    rw [htoken, hclosing] at hread
    cases hread

/-- A sign that is no bracket opens none. -/
theorem nests_sign {text : String} (hopening : "(" ≠ text) (hclosing : ")" ≠ text) :
    Nests (sign text) := by
  refine nests_token (if_neg fun h => hopening ?_) (if_neg fun h => hclosing ?_)
  · exact String.toList_inj.1 (Token.sign.inj h)
  · exact String.toList_inj.1 (Token.sign.inj h)

/-- A word opens no bracket. -/
theorem nests_word (text : String) : Nests (word text) := nests_token rfl rfl

/-- Words one after the other open no bracket. -/
theorem nests_words (texts : List String) : Nests (words texts) := by
  induction texts with
  | nil => exact nests_pure _
  | cons text texts ih => exact (nests_word text).bind fun _ => ih

/-- What may be left out closes its brackets if it is there. -/
theorem Nests.optional {reader : Reader α} (h : Nests reader) : Nests (optional reader) :=
  (h.bind fun _ => nests_pure _).orElse (nests_pure _)

/-- So does what is only said to be there. -/
theorem Nests.has {reader : Reader Unit} (h : Nests reader) : Nests (has reader) :=
  (h.bind fun _ => nests_pure _).orElse (nests_pure _)

/-- Looking at what follows takes nothing. -/
theorem nests_get : Nests (get : Reader (List Lexeme)) := by
  intro lexemes value rest h
  obtain ⟨-, rfl⟩ := Prod.mk.inj (Option.some.inj h)
  exact ⟨[], rfl, .nil⟩

/-- Seeing that something does not follow takes nothing. -/
theorem nests_without (reader : Reader Unit) : Nests (without reader) := by
  intro lexemes value rest h
  unfold without at h
  split at h
  · cases h
  · obtain ⟨-, rfl⟩ := Prod.mk.inj (Option.some.inj h)
    exact ⟨[], rfl, .nil⟩

/-- Things one after the other close their brackets if each does, whatever the fuel. -/
theorem Nests.upTo {reader : Reader α} (h : Nests reader) (fuel : Nat) :
    Nests (upTo reader fuel) := by
  induction fuel with
  | zero => exact nests_pure _
  | succ fuel ih =>
    exact (h.bind fun _ => ih.bind fun _ => nests_pure _).orElse (nests_pure _)

/-- The same of as many things as there are. -/
theorem Nests.many {reader : Reader α} (h : Nests reader) : Nests (many reader) :=
  nests_get.bind fun _ => h.upTo _

/-- A comma opens no bracket. -/
theorem nests_comma : Nests (sign ",") := nests_sign (by decide) (by decide)

/-- A list with commas closes its brackets if each part does. -/
theorem Nests.list {reader : Reader α} (h : Nests reader) : Nests (list reader) :=
  h.bind fun _ => (nests_comma.bind fun _ => h).many.bind fun _ => nests_pure _

/-- Keeping the text of what is taken opens no bracket. -/
theorem Nests.text {reader : Reader Unit} (h : Nests reader) : Nests (text reader) :=
  nests_get.bind fun _ => h.bind fun _ => nests_get.bind fun _ => nests_pure _

/-- A reader that takes balanced tokens and then a closing bracket. -/
def Closes (reader : Reader α) : Prop :=
  ∀ lexemes value rest, reader lexemes = some (value, rest) →
    ∃ inner last, lexemes = inner ++ last :: rest ∧ Balanced (inner.map (·.token)) ∧
      last.token = .closing

/-- The closing bracket closes. -/
theorem closes_sign : Closes (sign ")") := by
  intro lexemes found rest h
  obtain ⟨last, rfl, hlast⟩ := sign_eq_some_iff.1 h
  exact ⟨[], last, rfl, .nil, hlast⟩

/-- The closing bracket closes, whatever is made of it. -/
theorem closes_sign_bind_pure (value : α) : Closes (do sign ")"; pure value) := by
  intro lexemes found rest h
  obtain ⟨_, later, hsign, hpure⟩ := exists_of_bind h
  obtain ⟨-, rfl⟩ := eq_of_pure hpure
  exact closes_sign _ _ _ hsign

/-- What fails never closes. -/
theorem closes_failure : Closes (failure : Reader α) := by
  intro lexemes found rest h
  cases h

/-- What closes can stand behind what closes all its own brackets. -/
theorem Nests.bind_closes {reader : Reader α} {next : α → Reader β} (hreader : Nests reader)
    (hnext : ∀ value, Closes (next value)) : Closes (reader >>= next) := by
  intro lexemes value rest h
  obtain ⟨first, middle, hfirst, hrest⟩ := exists_of_bind h
  obtain ⟨taken, rfl, htaken⟩ := hreader _ _ _ hfirst
  obtain ⟨inner, last, rfl, hinner, hlast⟩ := hnext first _ _ _ hrest
  refine ⟨taken ++ inner, last, (List.append_assoc _ _ _).symm, ?_, hlast⟩
  rw [List.map_append]
  exact htaken.append hinner

/-- An opening bracket, what is balanced, and a closing bracket are balanced. -/
theorem balanced_of_brackets {first last : Lexeme} {inner : List Lexeme}
    (hfirst : first.token = .opening) (hinner : Balanced (inner.map (·.token)))
    (hlast : last.token = .closing) :
    Balanced ((first :: (inner ++ [last])).map (·.token)) := by
  rw [List.map_cons, List.map_append, List.map_singleton, hfirst, hlast]
  exact hinner.enclosed

/-- What is read in brackets: an opening one, balanced tokens, and a closing one. -/
theorem exists_of_inParentheses {reader : Reader α} (h : Nests reader) {value : α}
    (hread : inParentheses reader lexemes = some (value, rest)) :
    ∃ first inner last, lexemes = first :: (inner ++ last :: rest) ∧ first.token = .opening ∧
      Balanced (inner.map (·.token)) ∧ last.token = .closing := by
  obtain ⟨_, later, hsign, hlater⟩ := exists_of_bind hread
  obtain ⟨first, rfl, hfirst⟩ := sign_eq_some_iff.1 hsign
  obtain ⟨inner, last, rfl, hinner, hlast⟩ :=
    h.bind_closes (fun value => closes_sign_bind_pure value) _ _ _ hlater
  exact ⟨first, inner, last, rfl, hfirst, hinner, hlast⟩

/-- **What is read in brackets ends with the bracket that closes them.** -/
theorem rest_of_inParentheses {reader : Reader α} (h : Nests reader) {tokens : List Token}
    (hbalanced : Balanced tokens) {taken later : List Lexeme}
    (htaken : taken.map (·.token) = .opening :: (tokens ++ [.closing])) {value : α}
    (hread : inParentheses reader (taken ++ later) = some (value, rest)) : rest = later := by
  obtain ⟨first, inner, last, heq, hfirst, hinner, hlast⟩ := exists_of_inParentheses h hread
  have htokens := congrArg (List.map (·.token)) heq
  simp only [List.map_append, List.map_cons, htaken, hfirst, hlast, List.cons_append,
    List.append_assoc, List.nil_append, List.cons.injEq, true_and] at htokens
  have hlength := congrArg List.length htaken
  have hsame := congrArg List.length (hbalanced.append_cons_inj hinner htokens).1
  simp only [List.length_map, List.length_cons, List.length_append, List.length_nil] at hlength hsame
  have heq : taken ++ later = (first :: (inner ++ [last])) ++ rest := by simpa using heq
  refine (List.append_inj heq ?_).2.symm
  simp only [List.length_cons, List.length_append, List.length_nil]
  omega

/-- Brackets around what closes its own are closed. -/
theorem Nests.inParentheses {reader : Reader α} (h : Nests reader) :
    Nests (inParentheses reader) := by
  intro lexemes value rest hread
  obtain ⟨first, inner, last, rfl, hfirst, hinner, hlast⟩ := exists_of_inParentheses h hread
  exact ⟨first :: (inner ++ [last]), by simp, balanced_of_brackets hfirst hinner hlast⟩

/-- A reader that looks at a token first. Behind an opening bracket it has to take a closing one. -/
theorem nests_anyToken_bind {next : Token → Reader α} (hopening : Closes (next .opening))
    (hclosing : next .closing = failure)
    (hnext : ∀ token, token ≠ .opening → token ≠ .closing → Nests (next token)) :
    Nests (anyToken >>= next) := by
  intro lexemes value rest h
  obtain ⟨token, middle, hfirst, hlater⟩ := exists_of_bind h
  obtain ⟨lexeme, rfl, htoken⟩ := token_eq_some_iff.1 hfirst
  obtain rfl := Option.some.inj htoken
  by_cases hopen : lexeme.token = .opening
  · rw [hopen] at hlater
    obtain ⟨inner, last, rfl, hinner, hlast⟩ := hopening _ _ _ hlater
    exact ⟨lexeme :: (inner ++ [last]), by simp, balanced_of_brackets hopen hinner hlast⟩
  by_cases hclose : lexeme.token = .closing
  · rw [hclose, hclosing] at hlater
    cases hlater
  obtain ⟨taken, rfl, htaken⟩ := hnext _ hopen hclose _ _ _ hlater
  exact ⟨lexeme :: taken, rfl, (Balanced.singleton hopen hclose).append htaken⟩

/-- A reader that goes on differently behind an opening bracket. -/
theorem nests_has_bind {next : Bool → Reader α} (htrue : Closes (next true))
    (hfalse : Nests (next false)) : Nests (has (sign "(") >>= next) := by
  intro lexemes value rest h
  obtain ⟨found, middle, hfirst, hlater⟩ := exists_of_bind h
  rcases has_eq_some_iff.1 hfirst with ⟨rfl, hsign⟩ | ⟨rfl, -, rfl⟩
  · obtain ⟨first, rfl, htoken⟩ := sign_eq_some_iff.1 hsign
    obtain ⟨inner, last, rfl, hinner, hlast⟩ := htrue _ _ _ hlater
    exact ⟨first :: (inner ++ [last]), by simp, balanced_of_brackets htoken hinner hlast⟩
  · exact hfalse _ _ _ hlater

/-- A name opens no bracket. -/
theorem nests_name : Nests name := nests_token rfl rfl

/-- A part of a type opens no bracket. -/
theorem nests_label : Nests label := nests_token rfl rfl

/-- A number opens no bracket, with a sign or without. -/
theorem nests_signedNumber : Nests signedNumber :=
  ((nests_sign (by decide) (by decide)).orElse (nests_sign (by decide) (by decide))).optional.bind
    fun _ => nests_token rfl rfl

/-- A type closes the brackets around its sizes. -/
theorem nests_typeText : Nests typeText := by
  refine Nests.text (nests_label.many.bind fun labels => ?_)
  split
  · refine nests_has_bind (nests_signedNumber.bind_closes fun _ => ?_) (nests_pure _)
    refine nests_comma.has.bind_closes fun hasSecond => ?_
    cases hasSecond with
    | true => exact nests_signedNumber.bind_closes fun _ => closes_sign
    | false => exact closes_sign
  · exact nests_pure _

variable {expr : Leveled}

/-- A term of a key closes its brackets if expressions do. -/
theorem nests_sortTerm (h : ∀ level, Nests (expr level)) : Nests (sortTerm expr) := by
  refine (h 0).bind fun key => ?_
  refine Nests.bind ((nests_word _).orElse (nests_word _)).has fun _ => ?_
  refine Nests.bind (Nests.has ((nests_word _).bind fun _ => ?_)) fun _ => nests_pure _
  exact (nests_word _).orElse (nests_word _)

/-- The arguments of a call close their brackets if expressions do. -/
theorem nests_arguments (h : ∀ level, Nests (expr level)) : Nests (arguments expr) := by
  refine Nests.inParentheses (Nests.bind (nests_sign (by decide) (by decide)).has fun isEmpty => ?_)
  split
  · exact nests_pure _
  · refine Nests.bind ((nests_word _).orElse (nests_word _)).has fun _ => ?_
    refine Nests.bind ((h 0).list.orElse (nests_pure _)) fun operands => ?_
    have hkeys := (nests_sortTerm h).list
    exact Nests.bind (((nests_words _).bind fun _ => hkeys).optional) fun _ => nests_pure _

/-- Names behind dots open no bracket. -/
theorem nests_path (first : String) (whole : Expr) : Nests (path first whole) :=
  (((nests_sign (by decide) (by decide)).bind fun _ => nests_name).upTo 2).bind
    fun _ => nests_pure _

/-- A name with what belongs to it closes its brackets if expressions do. -/
theorem nests_reference (h : ∀ level, Nests (expr level)) (text : String) (quoting : Quoting) :
    Nests (reference expr text quoting) :=
  ((nests_arguments h).bind fun _ => nests_pure _).orElse (nests_path _ _)

/-- The branches of a choice close their brackets if expressions do. -/
theorem nests_branches (h : ∀ level, Nests (expr level)) : Nests (branches expr) := by
  refine Nests.bind (Nests.many ?_) fun found => ?_
  · refine (nests_word _).bind fun _ => (h 0).bind fun condition => ?_
    exact (nests_word _).bind fun _ => (h 0).bind fun _ => nests_pure _
  · refine (nests_guard _).bind fun _ => ?_
    refine Nests.bind ((nests_word _).bind fun _ => h 0).optional fun last => ?_
    exact (nests_word _).bind fun _ => nests_pure _

/-- An operand that starts with a word closes its brackets if expressions do. -/
theorem nests_wordOperand (h : ∀ level, Nests (expr level)) (text : List Char) :
    Nests (wordOperand expr text) := by
  unfold wordOperand
  split
  · exact nests_pure _
  · exact (h 3).bind fun _ => nests_pure _
  · refine Nests.bind ((nests_without _).bind fun _ => h 0).optional fun subject => ?_
    exact (nests_branches h).bind fun _ => nests_pure _
  · refine Nests.inParentheses ((h 0).bind fun operand => ?_)
    exact (nests_word _).bind fun _ => nests_typeText.bind fun _ => nests_pure _
  · refine Nests.inParentheses ((nests_word _).has.bind fun ignores => ?_)
    split
    · exact nests_pure _
    · refine Nests.bind ((nests_word _).orElse ((nests_word _).orElse (nests_word _))) fun _ => ?_
      exact nests_comma.bind fun _ => (h 0).bind fun _ => nests_pure _
  · split
    · exact nests_pure _
    · split
      · exact nests_reference h _ _
      · exact nests_failure

/-- Every operand closes its brackets if expressions do. -/
theorem nests_operand (h : ∀ level, Nests (expr level)) : Nests (operand expr) := by
  refine nests_anyToken_bind ?_ rfl fun token hopening hclosing => ?_
  · refine (nests_without _).bind_closes fun _ => (h 0).list.bind_closes fun operands => ?_
    exact closes_sign_bind_pure _
  · split
    · exact nests_pure _
    · exact nests_pure _
    · exact nests_pure _
    · exact nests_path _ _
    · exact nests_reference h _ _
    · exact nests_wordOperand h _
    · exact (h 12).bind fun _ => nests_pure _
    · exact (h 12).bind fun _ => nests_pure _
    · exact (h 12).bind fun _ => nests_pure _
    · exact absurd rfl hopening
    · exact nests_failure

/-- The right side of a condition closes its brackets if expressions do. -/
theorem nests_condition (h : ∀ level, Nests (expr level)) (left : Expr) (isDenied : Bool)
    (text : List Char) : Nests (condition expr left isDenied text) := by
  unfold condition
  split
  · refine (h 3).bind fun low => (nests_word _).bind fun _ => ?_
    exact (h 5).bind fun _ => nests_pure _
  · refine Nests.inParentheses ((nests_without _).bind fun _ => ?_)
    refine Nests.bind ((h 0).list.orElse (nests_pure _)) fun values => ?_
    exact (nests_guard _).bind fun _ => nests_pure _
  · refine (nests_guard _).bind fun _ => (h 5).bind fun right => ?_
    exact Nests.bind (((nests_word _).bind fun _ => h 5).optional) fun _ => nests_pure _

/-- The right side of a comparison for sameness closes its brackets if expressions do. -/
theorem nests_sameness (h : ∀ level, Nests (expr level)) (left : Expr) :
    Nests (sameness expr left) :=
  (nests_word _).has.bind fun _ => (nests_words _).has.bind fun _ =>
    (h 5).bind fun _ => nests_pure _

/-- An operator that is a word closes its brackets with its right side if expressions do. -/
theorem nests_wordExtension (h : ∀ level, Nests (expr level)) (level : Nat) (left : Expr)
    (text : List Char) : Nests (wordExtension expr level left text) := by
  unfold wordExtension
  split
  · exact (nests_guard _).bind fun _ => (h 2).bind fun _ => nests_pure _
  · exact (nests_guard _).bind fun _ => (h 3).bind fun _ => nests_pure _
  · refine (nests_guard _).bind fun _ => (nests_word _).has.bind fun isNull => ?_
    split
    · exact nests_pure _
    · refine nests_anyToken_bind closes_failure rfl fun token _ _ => ?_
      split
      · exact nests_condition h left true _
      · exact nests_failure
  · exact (nests_guard _).bind fun _ => nests_sameness h left
  · exact (nests_guard _).bind fun _ => nests_pure _
  · exact (nests_guard _).bind fun _ => nests_pure _
  · exact (nests_guard _).bind fun _ => nests_label.bind fun _ => nests_pure _
  · exact (nests_guard _).bind fun _ => nests_condition h left false text

/-- Every operator closes its brackets with its right side if expressions do. -/
theorem nests_extension (h : ∀ level, Nests (expr level)) (level : Nat) (left : Expr) :
    Nests (extension expr level left) := by
  refine nests_anyToken_bind closes_failure rfl fun token _ _ => ?_
  split
  · split
    · exact (nests_guard _).bind fun _ => (h _).bind fun _ => nests_pure _
    · exact nests_failure
  · exact nests_wordExtension h level left _
  · exact nests_failure

/-- An operand and all its operators close their brackets if expressions do. -/
theorem nests_extended (h : ∀ level, Nests (expr level)) (level fuel : Nat) (left : Expr) :
    Nests (extended expr level fuel left) := by
  induction fuel generalizing left with
  | zero => exact nests_pure _
  | succ fuel ih =>
    exact ((nests_extension h level left).bind fun _ => ih _).orElse (nests_pure _)

/-- An expression of bounded depth closes all its brackets. -/
theorem nests_expressionUpTo (fuel level : Nat) : Nests (expressionUpTo fuel level) := by
  induction fuel generalizing level with
  | zero => exact nests_failure
  | succ fuel ih => exact (nests_operand ih).bind fun _ => nests_extended ih _ _ _

/-- **An expression closes all its brackets.** -/
theorem nests_leveled (level : Nat) : Nests (leveled level) := by
  refine nests_get.bind fun _ => (nests_expressionUpTo _ _).bind fun _ => ?_
  exact (nests_guard _).bind fun _ => nests_pure _

/-- **What is read as an expression has all its brackets closed.** -/
theorem nests_expression : Nests expression := nests_leveled 0

end Reader

end TodoLedger.Sql
