import Mathlib.Data.List.Forall2
import TodoLedger.Proofs.Sql.Breaks

/-!
# Texts and their tokens

* `tokensOf text` are the tokens of a text. `Spells text tokens`: the text is read as these tokens
  wherever a break follows.
* Texts that start with a blank or a mark can be put behind each other (`Spells.append`). Words are
  read as words (`spells_word`, `spells_spaced`), and lists with commas as lists with commas
  (`spells_intercalate`).
* A word has its own text in front of what follows it (`start_eq_of_word`).
-/

namespace TodoLedger.Sql

variable {text first second word : List Char} {tokens more : List Token}

/-- The tokens of a text. -/
def tokensOf (text : List Char) : List Token := (lexed text).map (·.token)

/-- The comma between the parts of a list. -/
def Token.comma : Token := .sign [',']

/-- The text is read as these tokens before every break. -/
def Spells (text : List Char) (tokens : List Token) : Prop :=
  ∀ c rest, isBreak c → tokensOf (text ++ c :: rest) = tokens ++ tokensOf (c :: rest)

/-- Nothing spells no tokens. -/
theorem spells_nil : Spells [] [] := fun _ _ _ => rfl

/-- A text that is read up to a comma spells its tokens. -/
theorem spells_of_lexed {taken : List Lexeme} (h : lexed (text ++ [',']) = taken ++ lexed [',']) :
    Spells text (taken.map (·.token)) := by
  intro c rest hc
  obtain ⟨lexemes, hlexemes, htokens⟩ := exists_lexed_append h hc rest
  rw [tokensOf, hlexemes, List.map_append, htokens, tokensOf]

/-- What starts with a break can be put behind a text. -/
theorem Spells.append (hfirst : Spells first tokens) (hsecond : Spells second more)
    (hbreak : second.head?.any isBreak) : Spells (first ++ second) (tokens ++ more) := by
  intro c rest hc
  cases second with
  | nil => cases hbreak
  | cons d second =>
    have hd : isBreak d := hbreak
    rw [List.append_assoc, List.cons_append, hfirst d _ hd, ← List.cons_append, hsecond c rest hc,
      List.append_assoc]

/-- A mark can be put before a text. -/
theorem Spells.mark {m : Char} (hm : m ∈ marks) (h : Spells text tokens) :
    Spells (m :: text) (.sign [m] :: tokens) := by
  intro c rest hc
  rw [List.cons_append, tokensOf, lexed_mark hm, List.map_cons, List.cons_append, ← h c rest hc,
    tokensOf]

/-- A blank can be put before a text that starts with none. -/
theorem Spells.space (h : Spells text tokens) (hhead : text.head?.any (!isBlank ·)) :
    Spells (' ' :: text) tokens := by
  intro c rest hc
  have hstart : (text ++ c :: rest).head?.all (!isBlank ·) := by
    cases text with
    | nil => cases hhead
    | cons d text => exact hhead
  rw [List.cons_append, tokensOf, lexed_space hstart, ← h c rest hc, tokensOf]

/-- The tokens of a text and of what stands behind an opening bracket. -/
theorem Spells.tokensOf_bracket {gap : List Char} (h : Spells text tokens)
    (hgap : gap = [] ∨ gap = [' ']) (body : List Char) :
    tokensOf (text ++ gap ++ '(' :: body) = tokens ++ Token.sign ['('] :: tokensOf body := by
  have hbracket : tokensOf ('(' :: body) = Token.sign ['('] :: tokensOf body :=
    congrArg (List.map _) (lexed_mark (by decide))
  rcases hgap with rfl | rfl
  · rw [List.append_nil, h _ _ (by decide), hbracket]
  · have hspace : tokensOf (' ' :: '(' :: body) = tokensOf ('(' :: body) :=
      congrArg (List.map _) (lexed_space rfl)
    rw [List.append_assoc, List.singleton_append, h _ _ (by decide), hspace, hbracket]

/-- A statement without NUL is read as a whole. -/
theorem lexemes_eq_lexed (h : '\x00' ∉ text) : lexemes text = lexed text := by
  rw [lexemes_eq, List.takeWhile_eq_self_iff.2]
  intro c hc
  rw [decide_eq_true_eq]
  rintro rfl
  exact h hc

/-- The start of a statement is read whatever stands behind it. -/
theorem exists_lexemes_append (h : '\x00' ∉ text) (rest : List Char) :
    ∃ body, lexemes (text ++ rest) = lexed (text ++ body) := by
  refine ⟨rest.takeWhile (· ≠ '\x00'), ?_⟩
  rw [lexemes_eq, List.takeWhile_append_of_pos]
  intro c hc
  rw [decide_eq_true_eq]
  rintro rfl
  exact h hc

/-! ### Words -/

/-- No break goes on with a name. -/
theorem isNameRest_eq_false_of_isBreak {c : Char} (hc : isBreak c) : isNameRest c = false :=
  eq_false_of_isBreak isNameRest (by decide) hc

/-- A letter or an underscore is no blank. -/
theorem isBlank_eq_false_of_isAlpha {c : Char} (h : c.isAlpha ∨ c = '_') : isBlank c = false := by
  rcases h with h | rfl
  · have hspace : c ≠ ' ' := by
      rintro rfl
      exact absurd h (by decide)
    have hcode := toNat_of_isAlpha h
    simp only [isBlank, hspace, decide_false, Bool.false_or, Bool.and_eq_false_iff,
      decide_eq_false_iff_not]
    omega
  · decide

/-- A word starts with no blank. -/
theorem IsWord.head?_any (h : IsWord word) : word.head?.any (!isBlank ·) := by
  obtain ⟨c, hc, hfirst⟩ := h.first
  rw [Option.any_eq_true]
  exact ⟨c, hc, by rw [isBlank_eq_false_of_isAlpha hfirst]; rfl⟩

/-- A word is read as one token. -/
theorem spells_word (h : IsWord word) : Spells word [.word word] := by
  intro c rest hc
  have hquote : c ≠ '\'' := by
    rintro rfl
    exact absurd hc (by decide)
  rw [tokensOf, lexed_word h (isNameRest_eq_false_of_isBreak hc) hquote]
  rfl

/-- Words, each behind a blank. -/
def spaced (words : List (List Char)) : List Char := words.flatMap (' ' :: ·)

/-- Words after blanks are read as these words. -/
theorem spells_spaced {words : List (List Char)} (h : ∀ word ∈ words, IsWord word) :
    Spells (spaced words) (words.map .word) := by
  induction words with
  | nil => exact spells_nil
  | cons word words ih =>
    have hword := h word List.mem_cons_self
    have hfirst := (spells_word hword).space hword.head?_any
    have hlater := ih fun other hother => h other (List.mem_cons_of_mem _ hother)
    cases words with
    | nil => simpa [spaced] using hfirst
    | cons next words => exact hfirst.append hlater rfl

/-- No word holds the character that ends a statement. -/
theorem IsWord.nul_not_mem (h : IsWord word) : '\x00' ∉ word := fun hmem =>
  absurd (h.inner _ hmem) (by decide)

/-- Nor do words after blanks. -/
theorem nul_not_mem_spaced {words : List (List Char)} (h : ∀ word ∈ words, IsWord word) :
    '\x00' ∉ spaced words := by
  rw [spaced, List.mem_flatMap]
  rintro ⟨word, hword, hmem⟩
  exact List.not_mem_cons_of_ne_of_not_mem (by decide) (h word hword).nul_not_mem hmem

/-- The words with which a statement starts, up to an opening bracket. -/
def start (first : String) (words : List String) : List Char :=
  first.toList ++ spaced (words.map String.toList)

section Start

variable {first : String} {words : List String}

/-- The start of a statement is read as its words. -/
theorem spells_start (hfirst : IsWord first.toList) (h : ∀ word ∈ words, IsWord word.toList) :
    Spells (start first words) ((first :: words).map fun word => .word word.toList) := by
  have hwords : Spells (spaced (words.map String.toList)) ((words.map String.toList).map .word) :=
    spells_spaced (by simpa using h)
  cases words with
  | nil => simpa [start, spaced] using spells_word hfirst
  | cons word words =>
    rw [List.map_map] at hwords
    exact (spells_word hfirst).append hwords rfl

/-- Nor does the start of a statement. -/
theorem nul_not_mem_start (hfirst : IsWord first.toList) (h : ∀ word ∈ words, IsWord word.toList) :
    '\x00' ∉ start first words :=
  List.not_mem_append hfirst.nul_not_mem (nul_not_mem_spaced (by simpa using h))

/-- **The words with which a statement starts are read, whatever stands in the brackets.** -/
theorem exists_tokens_start {gap : List Char} (hfirst : IsWord first.toList)
    (h : ∀ word ∈ words, IsWord word.toList) (hgap : gap = [] ∨ gap = [' ']) (rest : List Char) :
    ∃ body, (lexemes (start first words ++ gap ++ '(' :: rest)).map (·.token) =
      (first :: words).map (fun word => .word word.toList) ++ Token.sign ['('] :: body := by
  have hstart := nul_not_mem_start hfirst h
  have hnul : '\x00' ∉ start first words ++ gap ++ ['('] := by
    refine List.not_mem_append (List.not_mem_append hstart ?_) (by decide)
    rcases hgap with rfl | rfl <;> decide
  obtain ⟨body, hbody⟩ := exists_lexemes_append hnul rest
  rw [← List.append_cons, ← List.append_cons] at hbody
  rw [hbody]
  exact ⟨tokensOf body, (spells_start hfirst h).tokensOf_bracket hgap body⟩

end Start

/-! ### Lists -/

/-- The first of several parts, and the separator before every other one. -/
theorem intercalate_cons {α : Type} (separator first : List α) (rest : List (List α)) :
    separator.intercalate (first :: rest) = first ++ rest.flatMap (separator ++ ·) := by
  induction rest generalizing first with
  | nil => simp [List.intercalate]
  | cons second rest ih => rw [List.intercalate_cons_cons, ih, List.flatMap_cons, List.append_assoc,
      List.append_assoc]

/-- What occurs in no part and not in the separator does not occur between them. -/
theorem not_mem_intercalate {α : Type} {separator : List α} {parts : List (List α)} {a : α}
    (hseparator : a ∉ separator) (hparts : ∀ part ∈ parts, a ∉ part) :
    a ∉ separator.intercalate parts := by
  cases parts with
  | nil => simp [List.intercalate]
  | cons first rest =>
    rw [intercalate_cons, List.mem_append, List.mem_flatMap]
    rintro (hfirst | ⟨part, hpart, hmem⟩)
    · exact hparts first List.mem_cons_self hfirst
    · exact (List.mem_append.1 hmem).elim hseparator
        (hparts part (List.mem_cons_of_mem _ hpart))

/-- Parts that start with no blank are read behind commas. -/
theorem spells_commas {parts : List (List Char)} {spellings : List (List Token)}
    (h : List.Forall₂ Spells parts spellings)
    (hparts : ∀ part ∈ parts, part.head?.any (!isBlank ·)) :
    Spells (parts.flatMap ([',', ' '] ++ ·)) (spellings.flatMap ([Token.comma] ++ ·)) := by
  induction h with
  | nil => exact spells_nil
  | cons hpart h ih =>
    have hfirst := (hpart.space (hparts _ List.mem_cons_self)).mark (m := ',') (by decide)
    have hlater := ih fun other hother => hparts other (List.mem_cons_of_mem _ hother)
    cases h with
    | nil => simpa [Token.comma] using hfirst
    | cons => exact hfirst.append hlater rfl

/-- Parts that start with no blank are read with commas between them. -/
theorem spells_intercalate {parts : List (List Char)} {spellings : List (List Token)}
    (h : List.Forall₂ Spells parts spellings)
    (hparts : ∀ part ∈ parts, part.head?.any (!isBlank ·)) :
    Spells ([',', ' '].intercalate parts) ([Token.comma].intercalate spellings) := by
  cases h with
  | nil => exact spells_nil
  | cons hpart h =>
    have hlater := spells_commas h fun other hother => hparts other (List.mem_cons_of_mem _ hother)
    rw [intercalate_cons, intercalate_cons]
    cases h with
    | nil => simpa using hpart
    | cons => exact hpart.append hlater rfl

/-! ### The places of words -/

/-- A word has its own text in front of what follows it. -/
theorem eq_append_of_nextToken {stop : List Char} (h : nextToken text = (.word word, stop)) :
    text = word ++ stop := by
  have hquoted {quote : Char} {make : List Char → Token} {text : List Char}
      (hmake : ∀ inside, make inside ≠ .word word) :
      nextQuoted quote make text ≠ (.word word, stop) := by
    unfold nextQuoted
    split
    · exact fun h => hmake _ (Prod.mk.inj h).1
    · exact fun h => nomatch (Prod.mk.inj h).1
  have hnumber {isDigit : Char → Bool} {number rest : List Char} :
      numberToken isDigit number rest ≠ (.word word, stop) := by
    unfold numberToken
    grind
  unfold nextToken at h
  split at h
  · cases h
  · exact absurd h (hquoted (by simp))
  · exact absurd h (hquoted (by simp))
  · exact absurd h (hquoted (by simp))
  · unfold nextBracketed at h
    grind
  · unfold nextBytes at h
    grind
  · unfold nextBytes at h
    grind
  · split at h
    · unfold nextNumber at h
      grind
    · split at h
      · obtain ⟨hword, hstop⟩ := Prod.mk.inj h
        obtain rfl := Token.word.inj hword
        rw [← hstop]
        exact (List.prefix_iff_eq_append.1 (List.takeWhile_prefix _)).symm
      · unfold nextSign at h
        grind

/-- **Every word has its own text in front of what follows it.** -/
theorem start_eq_of_word {lexeme : Lexeme} (h : lexeme ∈ lexed text)
    (hword : lexeme.token = .word word) : lexeme.start = word ++ lexeme.stop := by
  induction hn : text.length using Nat.strong_induction_on generalizing text with
  | _ n ih =>
    subst hn
    cases hstart : gapless text with
    | nil =>
      rw [lexed_of_gapless_nil hstart] at h
      cases h
    | cons c rest =>
      obtain ⟨token, stop, htoken⟩ : ∃ token stop, nextToken (c :: rest) = (token, stop) :=
        ⟨_, _, rfl⟩
      have hlength := length_gapless_le text
      have hstop : stop.length ≤ rest.length := by
        simpa [htoken] using (nextToken_suffix c rest).length_le
      rw [hstart, List.length_cons] at hlength
      rw [lexed_of_gapless hstart (List.cons_ne_nil _ _) htoken] at h
      rcases List.mem_cons.1 h with rfl | h
      · obtain rfl : token = .word word := hword
        exact eq_append_of_nextToken htoken
      · exact ih stop.length (by omega) h rfl

end TodoLedger.Sql
