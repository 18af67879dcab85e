import Mathlib.Data.List.TakeWhile
import TodoLedger.Sql.Token

/-!
# The lexemes of a text

* `gapless text` is the text behind the blanks and comments at its start, `lexed text` are its
  lexemes. Neither depends on fuel (`gapless_cons`, `lexed_of_gapless`).
* A token takes a character at least, and leaves the end of the text (`nextToken_suffix`).
* Words and the marks between them are read one by one (`lexed_word`, `lexed_mark`, `lexed_space`).
-/

namespace TodoLedger.Sql

variable {c : Char} {text rest : List Char}

/-! ### Gaps -/

/-- No more is left behind a comment. -/
theorem length_afterComment_le (text : List Char) : (afterComment text).length ≤ text.length := by
  fun_induction afterComment text with
  | case1 rest => simp only [List.length_cons]; omega
  | case2 _ rest _ ih => simp only [List.length_cons]; omega
  | case3 => simp

/-- No more is left behind a run. -/
theorem length_dropWhile_le (p : Char → Bool) (text : List Char) :
    (text.dropWhile p).length ≤ text.length :=
  (List.dropWhile_suffix p).length_le

/-- No more is left behind blanks and comments. -/
theorem length_afterGap_le (fuel : Nat) (text : List Char) :
    (afterGap fuel text).length ≤ text.length := by
  fun_induction afterGap fuel text with
  | case1 => simp
  | case2 => simp
  | case3 fuel c rest _ ih =>
    have hdrop := length_dropWhile_le isBlank rest
    simp only [List.length_cons]
    omega
  | case4 fuel comment _ ih =>
    have hdrop := length_dropWhile_le (· ≠ '\n') comment
    simp only [List.length_cons]
    omega
  | case5 fuel first comment _ ih =>
    have hdrop := length_afterComment_le (first :: comment)
    simp only [List.length_cons] at hdrop ⊢
    omega
  | case6 => simp

/-- Fuel for every character is enough. -/
theorem afterGap_congr {n m : Nat} (hn : text.length ≤ n) (hm : text.length ≤ m) :
    afterGap n text = afterGap m text := by
  induction n generalizing m text with
  | zero =>
    obtain rfl : text = [] := List.length_eq_zero_iff.1 (by omega)
    cases m <;> rfl
  | succ n ih =>
    cases text with
    | nil => cases m <;> rfl
    | cons c rest =>
      cases m with
      | zero => simp at hm
      | succ m =>
        simp only [List.length_cons, Nat.add_le_add_iff_right] at hn hm
        unfold afterGap
        split
        · have hdrop := length_dropWhile_le isBlank rest
          exact ih (by omega) (by omega)
        · split
          · next comment _ =>
            have hdrop := length_dropWhile_le (· ≠ '\n') comment
            simp only [List.length_cons] at hn hm
            exact ih (by omega) (by omega)
          · next first comment _ =>
            have hdrop := length_afterComment_le (first :: comment)
            simp only [List.length_cons] at hn hm hdrop
            exact ih (by omega) (by omega)
          · rfl

/-- The text behind all blanks and comments at the start. -/
def gapless (text : List Char) : List Char := afterGap text.length text

/-- Nothing is left of nothing. -/
@[simp] theorem gapless_nil : gapless [] = [] := rfl

/-- A blank, a comment, or the start of a token. -/
theorem gapless_cons (c : Char) (rest : List Char) :
    gapless (c :: rest) =
      if startsGap c then gapless (rest.dropWhile isBlank)
      else
        match c, rest with
        | '-', '-' :: comment => gapless (comment.dropWhile (· ≠ '\n'))
        | '/', '*' :: first :: comment => gapless (afterComment (first :: comment))
        | _, _ => c :: rest := by
  change afterGap (rest.length + 1) (c :: rest) = _
  unfold afterGap
  split
  · exact afterGap_congr (length_dropWhile_le _ _) le_rfl
  · split
    · next comment _ =>
      have hdrop := length_dropWhile_le (· ≠ '\n') comment
      refine afterGap_congr ?_ le_rfl
      simp only [List.length_cons]
      omega
    · next first comment _ =>
      have hdrop := length_afterComment_le (first :: comment)
      refine afterGap_congr ?_ le_rfl
      simp only [List.length_cons] at hdrop ⊢
      omega
    · simp_all

/-- No more is left behind all blanks and comments. -/
theorem length_gapless_le (text : List Char) : (gapless text).length ≤ text.length :=
  length_afterGap_le _ _

/-- A text that starts with a token. -/
theorem gapless_eq_self (h : startsGap c = false) (hdash : c = '-' → '-' ∉ rest.head?)
    (hslash : c = '/' → '*' ∉ rest.head?) : gapless (c :: rest) = c :: rest := by
  rw [gapless_cons, if_neg (by simp [h])]
  split
  · exact absurd rfl (hdash rfl)
  · exact absurd rfl (hslash rfl)
  · rfl

/-- Two dashes start a comment that ends with the line. -/
theorem gapless_dashes (comment : List Char) :
    gapless ('-' :: '-' :: comment) = gapless (comment.dropWhile (· ≠ '\n')) := by
  rw [gapless_cons, if_neg (by decide)]
  rfl

/-- A slash and a star start a comment, unless the text ends there. -/
theorem gapless_slash (hrest : rest ≠ []) :
    gapless ('/' :: '*' :: rest) = gapless (afterComment rest) := by
  rw [gapless_cons, if_neg (by decide)]
  cases rest with
  | nil => exact absurd rfl hrest
  | cons first comment => rfl

/-- A blank in front of a token. -/
theorem gapless_space (h : rest.head?.all (!isBlank ·)) : gapless (' ' :: rest) = gapless rest := by
  rw [gapless_cons, if_pos (by decide)]
  congr 1
  cases rest with
  | nil => rfl
  | cons c rest => simpa using h

/-! ### Tokens -/

/-- What is left behind quotes is the end of the text. -/
theorem splitQuoted?_suffix {quote : Char} {inside : List Char}
    (h : splitQuoted? quote text = some (inside, rest)) : rest <:+ text := by
  fun_induction splitQuoted? quote text generalizing inside with
  | case1 => cases h
  | case2 =>
    obtain ⟨-, rfl⟩ := Prod.mk.inj (Option.some.inj h)
    exact List.nil_suffix
  | case3 => cases h
  | case4 c d after _ ih =>
    obtain ⟨⟨found, stop⟩, hfound, heq⟩ := Option.map_eq_some_iff.1 h
    obtain ⟨-, rfl⟩ := Prod.mk.inj heq
    exact (ih hfound).trans (List.suffix_cons _ _)
  | case5 c after _ ih =>
    obtain ⟨⟨found, stop⟩, hfound, heq⟩ := Option.map_eq_some_iff.1 h
    obtain ⟨-, rfl⟩ := Prod.mk.inj heq
    exact ((ih hfound).trans (List.suffix_cons _ _)).trans (List.suffix_cons _ _)
  | case6 =>
    obtain ⟨-, rfl⟩ := Prod.mk.inj (Option.some.inj h)
    exact List.suffix_cons _ _

/-- The same of a token in quotes. -/
theorem nextQuoted_suffix (quote : Char) (token : List Char → Token) (text : List Char) :
    (nextQuoted quote token text).2 <:+ text := by
  unfold nextQuoted
  split
  · next hfound => exact splitQuoted?_suffix hfound
  · exact List.nil_suffix

/-- The same of a token in square brackets. -/
theorem nextBracketed_suffix (text : List Char) : (nextBracketed text).2 <:+ text := by
  unfold nextBracketed
  dsimp only
  split
  · next hdrop => exact (List.suffix_cons _ _).trans (hdrop ▸ List.drop_suffix _ _)
  · exact List.nil_suffix

/-- The same of bytes. -/
theorem nextBytes_suffix (text : List Char) : (nextBytes text).2 <:+ text := by
  unfold nextBytes
  dsimp only
  split
  · next hdrop =>
    split
    · exact (List.suffix_cons _ _).trans (hdrop ▸ List.drop_suffix _ _)
    · exact List.nil_suffix
  · exact List.nil_suffix

/-- The same of a number whose digits are known. -/
theorem numberToken_suffix (isDigit : Char → Bool) (number rest : List Char) :
    (numberToken isDigit number rest).2 <:+ rest := by
  unfold numberToken
  split
  · exact List.nil_suffix
  · split
    · exact List.suffix_rfl
    · split
      · exact List.suffix_rfl
      · exact List.nil_suffix

/-- A number takes a character at least. -/
theorem numberRun_ne_nil (h : c.isDigit || (c = '.' && rest.head?.any Char.isDigit)) :
    numberRun (c :: rest) ≠ [] := by
  unfold numberRun digitRun
  cases hdigit : c.isDigit with
  | true => simp [hdigit]
  | false =>
    simp only [hdigit, Bool.false_or, Bool.and_eq_true, decide_eq_true_eq] at h
    obtain ⟨rfl, -⟩ := h
    simp [placesRun]

/-- A number takes its first character. -/
theorem nextNumber_suffix (h : c.isDigit || (c = '.' && rest.head?.any Char.isDigit)) :
    (nextNumber (c :: rest)).2 <:+ rest := by
  have hdecimal (isDigit : Char → Bool) (number : List Char) : (numberToken isDigit number
      ((c :: rest).drop (numberRun (c :: rest)).length)).2 <:+ rest := by
    refine (numberToken_suffix _ _ _).trans ?_
    cases hrun : numberRun (c :: rest) with
    | nil => exact absurd hrun (numberRun_ne_nil h)
    | cons d run => simpa using List.drop_suffix run.length rest
  unfold nextNumber
  split
  · next x d after heq =>
    obtain ⟨rfl, rfl⟩ := List.cons.inj heq
    split
    · exact ((numberToken_suffix _ _ _).trans (List.drop_suffix _ _)).trans (List.suffix_cons _ _)
    · exact hdecimal _ _
  · exact hdecimal _ _

/-- A word takes its first character. -/
theorem nextWord_suffix (h : isNameRest c) : (nextWord (c :: rest)).2 <:+ rest := by
  rw [nextWord, List.takeWhile_cons_of_pos h]
  simpa using List.drop_suffix (rest.takeWhile isNameRest).length rest

/-- A sign takes its first character. -/
theorem nextSign_suffix (c : Char) (rest : List Char) : (nextSign (c :: rest)).2 <:+ rest := by
  unfold nextSign
  split
  · next heq =>
    obtain ⟨-, rfl⟩ := List.cons.inj heq
    exact (List.suffix_cons _ _).trans (List.suffix_cons _ _)
  · next heq =>
    obtain ⟨-, rfl⟩ := List.cons.inj heq
    split
    · exact List.suffix_cons _ _
    · split
      · exact List.suffix_rfl
      · exact List.nil_suffix
  · split <;> exact List.nil_suffix
  · exact List.nil_suffix

/-- What starts a name may go on with it. -/
theorem isNameRest_of_isNameStart (h : isNameStart c) : isNameRest c := by
  simp [isNameRest, h]

/-- **A token takes a character at least**, and what is left is the end of the text. -/
theorem nextToken_suffix (c : Char) (rest : List Char) : (nextToken (c :: rest)).2 <:+ rest := by
  unfold nextToken
  split
  · next heq => cases heq
  · next heq =>
    obtain ⟨-, rfl⟩ := List.cons.inj heq
    exact nextQuoted_suffix _ _ _
  · next heq =>
    obtain ⟨-, rfl⟩ := List.cons.inj heq
    exact nextQuoted_suffix _ _ _
  · next heq =>
    obtain ⟨-, rfl⟩ := List.cons.inj heq
    exact nextQuoted_suffix _ _ _
  · next heq =>
    obtain ⟨-, rfl⟩ := List.cons.inj heq
    exact nextBracketed_suffix _
  · next heq =>
    obtain ⟨-, rfl⟩ := List.cons.inj heq
    exact (nextBytes_suffix _).trans (List.suffix_cons _ _)
  · next heq =>
    obtain ⟨-, rfl⟩ := List.cons.inj heq
    exact (nextBytes_suffix _).trans (List.suffix_cons _ _)
  · next heq =>
    obtain ⟨rfl, rfl⟩ := List.cons.inj heq
    split
    · next hnumber => exact nextNumber_suffix hnumber
    · split
      · next hstart => exact nextWord_suffix (isNameRest_of_isNameStart hstart)
      · exact nextSign_suffix _ _

/-! ### Lexemes -/

/-- Fuel for every character is enough. -/
theorem lexemesUpTo_congr {n m : Nat} (hn : text.length ≤ n) (hm : text.length ≤ m) :
    lexemesUpTo n text = lexemesUpTo m text := by
  induction n generalizing m text with
  | zero =>
    obtain rfl : text = [] := List.length_eq_zero_iff.1 (by omega)
    cases m <;> rfl
  | succ n ih =>
    cases m with
    | zero =>
      obtain rfl : text = [] := List.length_eq_zero_iff.1 (by omega)
      rfl
    | succ m =>
      have hgap (fuel : Nat) (h : text.length ≤ fuel) : afterGap fuel text = gapless text :=
        afterGap_congr h le_rfl
      have hlength := length_gapless_le text
      rw [lexemesUpTo, lexemesUpTo, hgap _ hn, hgap _ hm]
      cases hstart : gapless text with
      | nil => rfl
      | cons c rest =>
        rw [hstart, List.length_cons] at hlength
        have hstop := (nextToken_suffix c rest).length_le
        have hlater : lexemesUpTo n (nextToken (c :: rest)).2 =
            lexemesUpTo m (nextToken (c :: rest)).2 := ih (by omega) (by omega)
        dsimp only
        rw [hlater]

/-- The lexemes of a text without NUL. -/
def lexed (text : List Char) : List Lexeme := lexemesUpTo text.length text

/-- The lexemes of a text do not go beyond a NUL. -/
theorem lexemes_eq (text : List Char) : lexemes text = lexed (text.takeWhile (· ≠ '\x00')) := rfl

/-- A text in which no token is left. -/
theorem lexed_of_gapless_nil (h : gapless text = []) : lexed text = [] := by
  cases text with
  | nil => rfl
  | cons c rest =>
    have hgap : afterGap (rest.length + 1) (c :: rest) = [] := h
    rw [lexed, List.length_cons, lexemesUpTo, hgap]

/-- The first lexeme of a text, and those behind it. -/
theorem lexed_of_gapless {start stop : List Char} {token : Token} (h : gapless text = start)
    (hstart : start ≠ []) (htoken : nextToken start = (token, stop)) :
    lexed text = ⟨token, start, stop⟩ :: lexed stop := by
  cases text with
  | nil => exact absurd h.symm hstart
  | cons c rest =>
    have hgap : afterGap (rest.length + 1) (c :: rest) = start := h
    have hlength := length_gapless_le (c :: rest)
    rw [h] at hlength
    rw [lexed, List.length_cons, lexemesUpTo, hgap]
    cases start with
    | nil => exact absurd rfl hstart
    | cons d after =>
      have hstop := (nextToken_suffix d after).length_le
      simp only [List.length_cons] at hlength
      dsimp only
      rw [htoken] at hstop ⊢
      dsimp only at hstop ⊢
      rw [lexemesUpTo_congr (by omega) le_rfl, lexed]

/-- What stands behind the same gap is read in the same way. -/
theorem lexed_congr {other : List Char} (h : gapless text = gapless other) :
    lexed text = lexed other := by
  cases hstart : gapless other with
  | nil => rw [lexed_of_gapless_nil hstart, lexed_of_gapless_nil (h.trans hstart)]
  | cons c rest =>
    have hne := List.cons_ne_nil c rest
    rw [lexed_of_gapless hstart hne rfl, lexed_of_gapless (h.trans hstart) hne rfl]

/-! ### Letters and digits -/

section Codes

variable {c : Char}

/-- The small letters by their code points. -/
theorem isLower_iff : c.isLower ↔ 97 ≤ c.toNat ∧ c.toNat ≤ 122 := by
  delta Char.isLower
  simp only [ge_iff_le, Bool.and_eq_true, decide_eq_true_eq, UInt32.le_iff_toNat_le]
  rfl

/-- The capital letters by their code points. -/
theorem isUpper_iff : c.isUpper ↔ 65 ≤ c.toNat ∧ c.toNat ≤ 90 := by
  delta Char.isUpper
  simp only [ge_iff_le, decide_eq_true_eq, UInt32.le_iff_toNat_le]
  rfl

/-- The digits by their code points. -/
theorem isDigit_iff : c.isDigit ↔ 48 ≤ c.toNat ∧ c.toNat ≤ 57 := by
  delta Char.isDigit
  simp only [ge_iff_le, Bool.and_eq_true, decide_eq_true_eq, UInt32.le_iff_toNat_le]
  rfl

/-- The letters are small or capital. -/
theorem isAlpha_iff : c.isAlpha ↔ c.isUpper ∨ c.isLower := Bool.or_eq_true_iff

/-- A letter has the code of one. -/
theorem toNat_of_isAlpha (h : c.isAlpha) :
    (65 ≤ c.toNat ∧ c.toNat ≤ 90) ∨ (97 ≤ c.toNat ∧ c.toNat ≤ 122) :=
  (isAlpha_iff.1 h).imp isUpper_iff.1 isLower_iff.1

/-- What is no capital stays the same in small letters. -/
theorem toLower_eq_self (h : ¬c.isUpper) : c.toLower = c := by
  delta Char.toLower
  exact dif_neg fun hcode => h (isUpper_iff.2 hcode)

end Codes

/-! ### Words and marks -/

/-- A word of letters, digits and underscores, as statements are written with. -/
structure IsWord (text : List Char) : Prop where
  first : ∃ c ∈ text.head?, c.isAlpha ∨ c = '_'
  inner : ∀ c ∈ text, isNameRest c

instance (text : List Char) : Decidable (IsWord text) :=
  decidable_of_iff ((text.head?.any fun c => c.isAlpha ∨ c = '_') ∧ text.all isNameRest) <| by
    simp only [Option.any_eq_true, List.all_eq_true, decide_eq_true_eq]
    exact ⟨fun h => ⟨h.1, h.2⟩, fun h => ⟨h.first, h.inner⟩⟩

/-- A letter or an underscore starts neither a gap nor another token. -/
theorem not_mem_of_isAlpha (h : c.isAlpha ∨ c = '_') :
    c ∉ [' ', '\t', '\n', '\x0c', '\r', '\ufeff', '-', '/', '\'', '"', '\x60', '[', '.'] := by
  have hnone : [' ', '\t', '\n', '\x0c', '\r', '\ufeff', '-', '/', '\'', '"', '\x60', '[', '.'].any
      (fun c => c.isAlpha || c = '_') = false := by
    decide
  exact fun hc => List.any_eq_false.1 hnone c hc (by simpa using h)

/-- No letter is a digit, nor is the underscore. -/
theorem isDigit_eq_false_of_isAlpha (h : c.isAlpha ∨ c = '_') : c.isDigit = false := by
  rcases h with h | rfl
  · have hcode := toNat_of_isAlpha h
    rw [Bool.eq_false_iff, ne_eq, isDigit_iff]
    omega
  · rfl

/-- A run of characters ends before one that does not belong to it. -/
theorem takeWhile_append_cons {p : Char → Bool} (hc : p c = false) (text rest : List Char) :
    (text ++ c :: rest).takeWhile p = text.takeWhile p := by
  induction text with
  | nil => simp [hc]
  | cons d text ih => cases hd : p d <;> simp [hd, ih]

/-- What starts with a letter or an underscore is a word, unless it is bytes in quotes. -/
theorem nextToken_eq_nextWord (h : c.isAlpha ∨ c = '_') (hquote : '\'' ∉ rest.head?) :
    nextToken (c :: rest) = nextWord (c :: rest) := by
  have hother := not_mem_of_isAlpha h
  have hdigit := isDigit_eq_false_of_isAlpha h
  have hstart : isNameStart c := by simpa [isNameStart, or_assoc] using Or.inl h
  simp only [List.mem_cons, List.not_mem_nil, or_false, not_or] at hother
  unfold nextToken
  split <;> simp_all

/-- A word is read up to where it ends. -/
theorem lexed_word {word : List Char} (h : IsWord word) (hc : isNameRest c = false)
    (hquote : c ≠ '\'') :
    lexed (word ++ c :: rest) = ⟨.word word, word ++ c :: rest, c :: rest⟩ :: lexed (c :: rest) := by
  obtain ⟨d, hd, hfirst⟩ := h.first
  have hother := not_mem_of_isAlpha hfirst
  have hrun : (word ++ c :: rest).takeWhile isNameRest = word := by
    rw [takeWhile_append_cons hc, List.takeWhile_eq_self_iff.2 h.inner]
  have hword : nextWord (word ++ c :: rest) = (.word word, c :: rest) := by
    rw [nextWord, hrun, List.drop_left]
  cases word with
  | nil => cases hd
  | cons e inner =>
    obtain rfl : e = d := Option.some.inj hd
    simp only [List.mem_cons, List.not_mem_nil, or_false, not_or] at hother
    have hnext : '\'' ∉ (inner ++ c :: rest).head? := by
      cases inner with
      | nil => simpa using hquote
      | cons f inner =>
        intro hf
        obtain rfl : f = '\'' := Option.some.inj hf
        exact absurd (h.inner '\'' (by simp)) (by decide)
    have htoken := (nextToken_eq_nextWord hfirst hnext).trans hword
    refine lexed_of_gapless (gapless_eq_self ?_ ?_ ?_) (List.cons_ne_nil _ _) htoken
    · simp_all [startsGap]
    · simp_all
    · simp_all

/-- The marks between the parts of a definition. -/
def marks : List Char := ['(', ')', ',', ';']

/-- A mark is read by itself. -/
theorem lexed_mark (hc : c ∈ marks) :
    lexed (c :: rest) = ⟨.sign [c], c :: rest, rest⟩ :: lexed rest := by
  have hother : marks.all (fun c => !startsGap c && c ≠ '-' && c ≠ '/') := by decide
  obtain ⟨⟨hgap, hdash⟩, hslash⟩ : (startsGap c = false ∧ c ≠ '-') ∧ c ≠ '/' := by
    simpa using List.all_eq_true.1 hother c hc
  have htoken : nextToken (c :: rest) = (.sign [c], rest) := by
    simp only [marks, List.mem_cons, List.not_mem_nil, or_false] at hc
    rcases hc with rfl | rfl | rfl | rfl <;> cases rest <;>
      simp [nextToken, nextSign, doubleSigns, singleSigns, isNameStart]
  have hgapless : gapless (c :: rest) = c :: rest :=
    gapless_eq_self hgap (absurd · hdash) (absurd · hslash)
  exact lexed_of_gapless hgapless (List.cons_ne_nil _ _) htoken

/-- A blank in front of a word or a mark means nothing. -/
theorem lexed_space (h : rest.head?.all (!isBlank ·)) : lexed (' ' :: rest) = lexed rest :=
  lexed_congr (gapless_space h)

end TodoLedger.Sql
