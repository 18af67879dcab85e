import TodoLedger.Proofs.Sql.Lexing

/-!
# Tokens before a break

* A break is a character that ends every token: a blank, or a mark (`isBreak`).
* **What is read up to a comma is read in the same way before every other break**
  (`exists_lexed_append`).
-/

namespace TodoLedger.Sql

variable {c : Char} {text rest : List Char}

/-! ### Breaks -/

/-- The characters at which every token ends and that start no comment: a blank, or a mark. -/
def breaks : List Char := ' ' :: marks

/-- True of the breaks. -/
def isBreak (c : Char) : Bool := breaks.contains c

/-- A break is none of the characters that matter within a token. -/
theorem isBreak_cases (h : isBreak c) : c = ' ' ∨ c = '(' ∨ c = ')' ∨ c = ',' ∨ c = ';' := by
  simpa [isBreak, breaks, marks] using h

/-- What does not start a text does not start the text with a break and more behind it. -/
theorem not_mem_head?_append {d : Char} (hc : isBreak c) (hd : isBreak d = false)
    (h : d ∉ text.head?) : d ∉ (text ++ c :: rest).head? := by
  cases text with
  | nil =>
    intro hmem
    obtain rfl : c = d := Option.some.inj hmem
    rw [hc] at hd
    cases hd
  | cons e text => exact h

/-- Blanks before a break are not told from those behind it. -/
theorem gapless_dropWhile_of_isBreak (h : isBreak c) (rest : List Char) :
    gapless ((c :: rest).dropWhile isBlank) = gapless (c :: rest) := by
  rcases isBreak_cases h with rfl | rfl | rfl | rfl | rfl
  · rw [gapless_cons, if_pos (by decide)]
    rfl
  · rfl
  · rfl
  · rfl
  · rfl

/-- A comment ends before what stands behind the text, or it goes on to the end. -/
theorem afterComment_append (text : List Char) :
    afterComment (text ++ [',']) = [] ∨ ∃ stop, stop <:+ text ∧
      ∀ c rest, isBreak c → afterComment (text ++ c :: rest) = stop ++ c :: rest := by
  fun_induction afterComment text with
  | case1 rest =>
    exact .inr ⟨rest, (List.suffix_cons _ _).trans (List.suffix_cons _ _), fun _ _ _ => rfl⟩
  | case2 d text hd ih =>
    -- The star and the slash that end a comment are both in the text, as no break is a slash.
    have hskip (c : Char) (rest : List Char) (hc : isBreak c) :
        afterComment (d :: text ++ c :: rest) = afterComment (text ++ c :: rest) := by
      rw [List.cons_append, afterComment]
      rintro later rfl heq
      cases text with
      | nil =>
        obtain ⟨rfl, -⟩ := List.cons.inj heq
        exact absurd hc (by decide)
      | cons e text =>
        obtain ⟨rfl, -⟩ := List.cons.inj heq
        exact hd text rfl rfl
    rcases ih with hnone | ⟨stop, hsuffix, hstop⟩
    · exact .inl ((hskip ',' [] (by decide)).trans hnone)
    · refine .inr ⟨stop, hsuffix.trans (List.suffix_cons _ _), fun c rest hc => ?_⟩
      rw [hskip c rest hc, hstop c rest hc]
  | case3 => exact .inl rfl

/-- Where the token behind a gap starts: at the same place whatever break follows, unless a comment
goes on to the end. -/
theorem gapless_append (text : List Char) :
    gapless (text ++ [',']) = [] ∨ ∃ start, start <:+ text ∧
      ∀ c rest, isBreak c → gapless (text ++ c :: rest) =
        if start = [] then gapless (c :: rest) else start ++ c :: rest := by
  induction hn : text.length using Nat.strong_induction_on generalizing text with
  | _ n ih =>
    subst hn
    cases text with
    | nil => exact .inr ⟨[], List.suffix_rfl, fun _ _ _ => rfl⟩
    | cons d text =>
      -- What is left behind a blank or a comment is shorter and ends in the same way.
      have hshorter {later : List Char} (hlater : later <:+ text)
          (hskip : ∀ c rest, isBreak c →
            gapless (d :: text ++ c :: rest) = gapless (later ++ c :: rest)) :
          gapless (d :: text ++ [',']) = [] ∨ ∃ start, start <:+ d :: text ∧
            ∀ c rest, isBreak c → gapless (d :: text ++ c :: rest) =
              if start = [] then gapless (c :: rest) else start ++ c :: rest := by
        have hlength := hlater.length_le
        rcases ih later.length (by simp only [List.length_cons]; omega) later rfl with
          hnone | ⟨start, hsuffix, hstart⟩
        · exact .inl ((hskip ',' [] (by decide)).trans hnone)
        · refine .inr ⟨start, (hsuffix.trans hlater).trans (List.suffix_cons _ _), fun c rest hc => ?_⟩
          rw [hskip c rest hc, hstart c rest hc]
      by_cases hgap : startsGap d
      · refine hshorter (List.dropWhile_suffix isBlank) fun c rest hc => ?_
        rw [List.cons_append, gapless_cons, if_pos hgap, List.dropWhile_append]
        split
        · next hempty =>
          rw [List.isEmpty_iff.1 hempty]
          exact gapless_dropWhile_of_isBreak hc rest
        · rfl
      by_cases hdash : d = '-' ∧ '-' ∈ text.head?
      · obtain ⟨rfl, hhead⟩ := hdash
        obtain ⟨comment, rfl⟩ := List.head?_eq_some_iff.1 hhead
        cases hline : comment.dropWhile (· ≠ '\n') with
        | nil =>
          left
          rw [List.cons_append, List.cons_append, gapless_dashes, List.dropWhile_append, hline]
          rfl
        | cons e later =>
          refine hshorter ((List.dropWhile_suffix (· ≠ '\n')).trans (List.suffix_cons _ _))
            fun c rest hc => ?_
          rw [List.cons_append, List.cons_append, gapless_dashes, List.dropWhile_append, hline]
          rfl
      by_cases hslash : d = '/' ∧ '*' ∈ text.head?
      · obtain ⟨rfl, hhead⟩ := hslash
        obtain ⟨comment, rfl⟩ := List.head?_eq_some_iff.1 hhead
        have hcomment (c : Char) (rest : List Char) : gapless ('/' :: '*' :: comment ++ c :: rest) =
            gapless (afterComment (comment ++ c :: rest)) :=
          gapless_slash (List.append_ne_nil_of_right_ne_nil _ (List.cons_ne_nil _ _))
        rcases afterComment_append comment with hnone | ⟨stop, hsuffix, hstop⟩
        · left
          rw [hcomment, hnone]
          rfl
        · refine hshorter (hsuffix.trans (List.suffix_cons _ _)) fun c rest hc => ?_
          rw [hcomment, hstop c rest hc]
      · refine .inr ⟨d :: text, List.suffix_rfl, fun c rest hc => ?_⟩
        rw [if_neg (List.cons_ne_nil _ _)]
        exact gapless_eq_self (by simpa using hgap)
          (fun h => not_mem_head?_append hc (by decide) fun hmem => hdash ⟨h, hmem⟩)
          (fun h => not_mem_head?_append hc (by decide) fun hmem => hslash ⟨h, hmem⟩)

/-! ### Tokens before a break -/

variable {stop : List Char} {token : Token}

/-- The end of quotes is found before every break where it is found before a comma. -/
theorem splitQuoted?_append {quote : Char} {inside : List Char} (hquote : isBreak quote = false)
    (hc : isBreak c) (h : splitQuoted? quote (text ++ [',']) = some (inside, stop ++ [','])) :
    splitQuoted? quote (text ++ c :: rest) = some (inside, stop ++ c :: rest) := by
  have hne {d : Char} (hd : isBreak d) : d ≠ quote := by
    rintro rfl
    rw [hd] at hquote
    cases hquote
  have hcomma : ',' ≠ quote := hne (by decide)
  fun_induction splitQuoted? quote text generalizing inside with
  | case1 => simp [splitQuoted?, hcomma] at h
  | case2 =>
    simp only [List.cons_append, List.nil_append, splitQuoted?, ne_eq, not_true_eq_false,
      if_false, if_neg hcomma, if_neg (hne hc)] at h ⊢
    simp_all
  | case3 d hd => simp [splitQuoted?, hcomma, hd] at h
  | case4 d e after hd ih =>
    simp only [List.cons_append, splitQuoted?, if_pos hd] at h ⊢
    obtain ⟨⟨found, later⟩, hfound, heq⟩ := Option.map_eq_some_iff.1 h
    obtain ⟨rfl, rfl⟩ := Prod.mk.inj heq
    rw [← List.cons_append, ih hfound]
    rfl
  | case5 d after hd ih =>
    simp only [List.cons_append, splitQuoted?, if_neg hd, if_true] at h ⊢
    obtain ⟨⟨found, later⟩, hfound, heq⟩ := Option.map_eq_some_iff.1 h
    obtain ⟨rfl, rfl⟩ := Prod.mk.inj heq
    rw [ih hfound]
    rfl
  | case6 d e after hd he =>
    simp only [List.cons_append, splitQuoted?, if_neg hd, if_neg he] at h ⊢
    obtain ⟨rfl, hafter⟩ := Prod.mk.inj (Option.some.inj h)
    rw [← List.cons_append, List.append_cancel_right_eq] at hafter
    rw [← hafter]
    rfl

/-- The same of a token in quotes. -/
theorem nextQuoted_append {quote : Char} {make : List Char → Token} (hquote : isBreak quote = false)
    (hc : isBreak c) (h : nextQuoted quote make (text ++ [',']) = (token, stop ++ [','])) :
    nextQuoted quote make (text ++ c :: rest) = (token, stop ++ c :: rest) := by
  unfold nextQuoted at h
  split at h
  · next inside after hinside =>
    obtain ⟨rfl, rfl⟩ := Prod.mk.inj h
    rw [nextQuoted, splitQuoted?_append hquote hc hinside]
  · simp at h

/-- Dropping as many characters as a run has leaves what is behind the run. -/
theorem drop_length_takeWhile (p : Char → Bool) (text : List Char) :
    text.drop (text.takeWhile p).length = text.dropWhile p := by
  induction text with
  | nil => rfl
  | cons c rest ih => cases hc : p c <;> simp [hc, ih]

/-- What a predicate leaves of the start of a longer text. -/
theorem drop_takeWhile_append (p : Char → Bool) (text rest : List Char) :
    (text ++ rest).drop (text.takeWhile p).length = text.dropWhile p ++ rest := by
  rw [List.drop_append_of_le_length (List.takeWhile_prefix p).length_le, drop_length_takeWhile]

/-- A predicate that holds of no break, where a break stands. -/
theorem eq_false_of_isBreak (p : Char → Bool) (hp : breaks.any p = false) (hc : isBreak c) :
    p c = false :=
  Bool.eq_false_iff.2 (List.any_eq_false.1 hp c (List.contains_iff_mem.1 hc))

/-- Whether a text goes on with a character that is no break is told without what follows it. -/
theorem head?_any_append {p : Char → Bool} (hp : breaks.any p = false) (hc : isBreak c)
    (text rest : List Char) : (text ++ c :: rest).head?.any p = text.head?.any p := by
  cases text with
  | nil => exact eq_false_of_isBreak p hp hc
  | cons d text => rfl

/-- A name in brackets ends at the first closing bracket. -/
theorem nextBracketed_of_not_mem {inside : List Char} (h : ']' ∉ inside) (rest : List Char) :
    nextBracketed (inside ++ ']' :: rest) = (.name inside false, rest) := by
  have hinside : ∀ d ∈ inside, decide (d ≠ ']') := by
    intro d hd
    rw [decide_eq_true_eq]
    rintro rfl
    exact h hd
  have htaken : (inside ++ ']' :: rest).takeWhile (· ≠ ']') = inside := by
    rw [takeWhile_append_cons (by decide), List.takeWhile_eq_self_iff.2 hinside]
  rw [nextBracketed, htaken, List.drop_left]

/-- The same of a token in square brackets. -/
theorem nextBracketed_append (h : nextBracketed (text ++ [',']) = (token, stop ++ [',']))
    (c : Char) (rest : List Char) :
    nextBracketed (text ++ c :: rest) = (token, stop ++ c :: rest) := by
  by_cases hmem : ']' ∈ text
  · obtain ⟨inside, after, rfl, hinside⟩ := List.eq_append_cons_of_mem hmem
    simp only [List.append_assoc, List.cons_append, nextBracketed_of_not_mem hinside,
      Prod.mk.injEq] at h ⊢
    rw [List.append_cancel_right_eq] at h
    exact ⟨h.1, by rw [h.2]⟩
  · have hall : ∀ d ∈ text ++ [','], decide (d ≠ ']') := by
      intro d hd
      rw [decide_eq_true_eq]
      rintro rfl
      simp [hmem] at hd
    rw [nextBracketed, drop_length_takeWhile, List.dropWhile_eq_nil_iff.2 hall] at h
    simp at h

/-- The same of bytes. -/
theorem nextBytes_append (hc : isBreak c)
    (h : nextBytes (text ++ [',']) = (token, stop ++ [','])) :
    nextBytes (text ++ c :: rest) = (token, stop ++ c :: rest) := by
  have hhex {d : Char} (hd : isBreak d) : isHexDigit d = false :=
    eq_false_of_isBreak _ (by decide) hd
  have hcomma : isHexDigit ',' = false := by decide
  unfold nextBytes at h ⊢
  simp only [takeWhile_append_cons (hhex hc), takeWhile_append_cons hcomma,
    drop_takeWhile_append] at h ⊢
  cases hlater : text.dropWhile isHexDigit with
  | nil =>
    rw [hlater] at h
    simp at h
  | cons d later =>
    rw [hlater] at h
    simp only [List.cons_append] at h ⊢
    split at h
    · next heq =>
      obtain ⟨rfl, rfl⟩ := List.cons.inj heq
      split at h
      · next heven =>
        simp_all
      · simp at h
    · simp at h

/-- The same of a word. -/
theorem nextWord_append (hc : isBreak c)
    (h : nextWord (text ++ [',']) = (token, stop ++ [','])) :
    nextWord (text ++ c :: rest) = (token, stop ++ c :: rest) := by
  have hrest {d : Char} (hd : isBreak d) : isNameRest d = false :=
    eq_false_of_isBreak _ (by decide) hd
  have hcomma := hrest (d := ',') (by decide)
  unfold nextWord at h ⊢
  simp only [takeWhile_append_cons (hrest hc), takeWhile_append_cons hcomma,
    drop_takeWhile_append, Prod.mk.injEq, List.append_cancel_right_eq] at h ⊢
  exact ⟨h.1, by rw [h.2]⟩

/-- The same of a number whose digits are known. -/
theorem numberToken_append {isDigit : Char → Bool} {number : List Char} (hc : isBreak c)
    (h : numberToken isDigit number (text ++ [',']) = (token, stop ++ [','])) :
    numberToken isDigit number (text ++ c :: rest) = (token, stop ++ c :: rest) := by
  have hnil : ([] : List Char) ≠ stop ++ [','] := by simp
  unfold numberToken at h ⊢
  rw [head?_any_append (by decide) (by decide)] at h
  rw [head?_any_append (by decide) hc]
  split at h
  · exact absurd (Prod.mk.inj h).2 hnil
  · split at h
    · obtain ⟨rfl, hstop⟩ := Prod.mk.inj h
      rw [List.append_cancel_right hstop]
      simp_all
    · split at h
      · obtain ⟨rfl, hstop⟩ := Prod.mk.inj h
        rw [List.append_cancel_right hstop]
        simp_all
      · exact absurd (Prod.mk.inj h).2 hnil

/-- A break ends the digits of a number. -/
theorem digitRun_append (hc : isBreak c) (text rest : List Char) :
    digitRun Char.isDigit (text ++ c :: rest) = digitRun Char.isDigit text :=
  takeWhile_append_cons (eq_false_of_isBreak (fun c => c.isDigit || c = '_') (by decide) hc) _ _

/-- A break ends the decimal places. -/
theorem placesRun_append (hc : isBreak c) (text rest : List Char) :
    placesRun (text ++ c :: rest) = placesRun text := by
  cases text with
  | nil => rcases isBreak_cases hc with rfl | rfl | rfl | rfl | rfl <;> rfl
  | cons d text =>
    by_cases hd : d = '.'
    · subst hd
      exact congrArg ('.' :: ·) (digitRun_append hc text rest)
    · simp [placesRun, hd]

/-- A break ends the exponent. -/
theorem exponentRun_append (hc : isBreak c) (text rest : List Char) :
    exponentRun (text ++ c :: rest) = exponentRun text := by
  have hdigit : c.isDigit = false := eq_false_of_isBreak Char.isDigit (by decide) hc
  have hsign : (c = '+' || c = '-') = false :=
    eq_false_of_isBreak (fun c => c = '+' || c = '-') (by decide) hc
  match text with
  | [] => cases rest <;> rcases isBreak_cases hc with rfl | rfl | rfl | rfl | rfl <;> rfl
  | [e] => simp [exponentRun, hdigit, hsign]
  | e :: d :: text =>
    have hhead := head?_any_append (p := Char.isDigit) (by decide) hc text rest
    simp only [List.cons_append, exponentRun, hhead, digitRun_append hc]

/-- The decimal places stand at the start of what follows the digits. -/
theorem placesRun_isPrefix (text : List Char) : placesRun text <+: text := by
  unfold placesRun
  split
  · exact (List.prefix_cons_inj _).2 (List.takeWhile_prefix _)
  · exact List.nil_prefix

/-- The exponent stands at the start of what follows the places. -/
theorem exponentRun_isPrefix (text : List Char) : exponentRun text <+: text := by
  unfold exponentRun
  split
  · dsimp only
    split
    · exact (List.prefix_cons_inj _).2 ((List.prefix_cons_inj _).2 (List.takeWhile_prefix _))
    · exact List.nil_prefix
  · exact List.nil_prefix

/-- What stands at the start of the rest stands behind the first part. -/
theorem append_prefix_of_drop {first second : List Char} (hfirst : first <+: text)
    (hsecond : second <+: text.drop first.length) : first ++ second <+: text := by
  obtain ⟨later, rfl⟩ := hfirst
  rw [List.drop_left] at hsecond
  exact (List.prefix_append_right_inj first).2 hsecond

/-- The digits and the places stand at the start of the text. -/
theorem wholeAndPlaces_isPrefix (text : List Char) :
    digitRun Char.isDigit text ++ placesRun (text.drop (digitRun Char.isDigit text).length) <+:
      text :=
  append_prefix_of_drop (List.takeWhile_prefix _) (placesRun_isPrefix _)

/-- All parts of a number stand at the start of the text. -/
theorem numberRun_isPrefix (text : List Char) : numberRun text <+: text := by
  refine append_prefix_of_drop (wholeAndPlaces_isPrefix text) ?_
  rw [List.length_append]
  exact exponentRun_isPrefix _

/-- No break belongs to a number. -/
theorem numberRun_append (hc : isBreak c) (text rest : List Char) :
    numberRun (text ++ c :: rest) = numberRun text := by
  have hwhole : (digitRun Char.isDigit text).length ≤ text.length :=
    (List.takeWhile_prefix _).length_le
  have hplaces := (wholeAndPlaces_isPrefix text).length_le
  rw [List.length_append] at hplaces
  simp only [numberRun, digitRun_append hc, List.drop_append_of_le_length hwhole,
    placesRun_append hc, List.drop_append_of_le_length hplaces, exponentRun_append hc]

/-- The token of a decimal number at the start of a text. -/
def decimalToken (text : List Char) : Token × List Char :=
  numberToken Char.isDigit (numberRun text) (text.drop (numberRun text).length)

/-- The same of a number with decimal digits. -/
theorem decimalToken_append (hc : isBreak c)
    (h : decimalToken (text ++ [',']) = (token, stop ++ [','])) :
    decimalToken (text ++ c :: rest) = (token, stop ++ c :: rest) := by
  have hcomma : isBreak ',' := by decide
  have hrun := (numberRun_isPrefix text).length_le
  rw [decimalToken, numberRun_append hcomma, List.drop_append_of_le_length hrun] at h
  rw [decimalToken, numberRun_append hc, List.drop_append_of_le_length hrun]
  exact numberToken_append hc h

/-- A number is decimal unless it starts with a zero, an `x` and a digit. -/
theorem nextNumber_cases (text : List Char) :
    (∃ x d after, text = '0' :: x :: d :: after ∧ (x = 'x' ∨ x = 'X') ∧ isHexDigit d) ∨
      ∀ c rest, isBreak c → nextNumber (text ++ c :: rest) = decimalToken (text ++ c :: rest) := by
  by_cases hhex : ∃ x d after, text = '0' :: x :: d :: after ∧ (x = 'x' ∨ x = 'X') ∧ isHexDigit d
  · exact .inl hhex
  refine .inr fun c rest hc => ?_
  have hdigit : isHexDigit c = false := eq_false_of_isBreak isHexDigit (by decide) hc
  have hx : c ≠ 'x' ∧ c ≠ 'X' := by
    rcases isBreak_cases hc with rfl | rfl | rfl | rfl | rfl <;> decide
  unfold nextNumber
  split
  · next x d after heq =>
    rw [if_neg]
    · rfl
    · intro hcond
      simp only [Bool.and_eq_true, Bool.or_eq_true, decide_eq_true_eq] at hcond
      match text with
      | [] => simp at heq; obtain ⟨rfl, -⟩ := heq; exact absurd hc (by decide)
      | [a] => simp_all
      | [a, b] => simp_all
      | a :: b :: e :: text =>
        simp only [List.cons_append, List.cons.injEq] at heq
        obtain ⟨rfl, rfl, rfl, rfl⟩ := heq
        exact hhex ⟨_, _, _, rfl, hcond⟩
  · rfl

/-- The same of every number. -/
theorem nextNumber_append (hc : isBreak c)
    (h : nextNumber (text ++ [',']) = (token, stop ++ [','])) :
    nextNumber (text ++ c :: rest) = (token, stop ++ c :: rest) := by
  rcases nextNumber_cases text with ⟨x, d, after, rfl, hx, hd⟩ | hdecimal
  · have hhex {e : Char} (he : isBreak e) : (isHexDigit e || e = '_') = false :=
      eq_false_of_isBreak (fun c => isHexDigit c || c = '_') (by decide) he
    have hcond : ((x = 'x' || x = 'X') && isHexDigit d) = true := by simpa [hd] using hx
    have hrun {e : Char} (he : isBreak e) (rest : List Char) :
        digitRun isHexDigit (d :: after ++ e :: rest) = digitRun isHexDigit (d :: after) :=
      takeWhile_append_cons (hhex he) _ _
    have hlength : (digitRun isHexDigit (d :: after)).length ≤ (d :: after).length :=
      (List.takeWhile_prefix _).length_le
    have hnumber (e : Char) (he : isBreak e) (rest : List Char) :
        nextNumber ('0' :: x :: d :: after ++ e :: rest) =
          numberToken isHexDigit ('0' :: x :: digitRun isHexDigit (d :: after))
            ((d :: after).drop (digitRun isHexDigit (d :: after)).length ++ e :: rest) := by
      rw [← List.drop_append_of_le_length hlength, ← hrun he rest]
      exact if_pos hcond
    rw [hnumber ',' (by decide)] at h
    rw [hnumber c hc]
    exact numberToken_append hc h
  · rw [hdecimal ',' [] (by decide)] at h
    rw [hdecimal c rest hc]
    exact decimalToken_append hc h

/-- A mark of one or two characters. -/
theorem nextSign_cons_cons {d e : Char} (h : d = '-' → e = '>' → '>' ∉ rest.head?) :
    nextSign (d :: e :: rest) =
      if doubleSigns.contains (d, e) then (.sign [d, e], rest)
      else if singleSigns.contains d then (.sign [d], e :: rest)
      else (.illegal, []) := by
  unfold nextSign
  split
  · next heq =>
    simp only [List.cons.injEq] at heq
    obtain ⟨rfl, rfl, rfl⟩ := heq
    exact absurd rfl (h rfl rfl)
  · next heq =>
    simp only [List.cons.injEq] at heq
    obtain ⟨rfl, rfl, rfl⟩ := heq
    rfl
  · next heq => cases heq
  · next heq => cases heq

/-- The same of a sign. -/
theorem nextSign_append (htext : text ≠ []) (hc : isBreak c)
    (h : nextSign (text ++ [',']) = (token, stop ++ [','])) :
    nextSign (text ++ c :: rest) = (token, stop ++ c :: rest) := by
  have hgreater {e : Char} (he : isBreak e) : e ≠ '>' := by
    rcases isBreak_cases he with rfl | rfl | rfl | rfl | rfl <;> decide
  have hdouble (d : Char) {e : Char} (he : isBreak e) : doubleSigns.contains (d, e) = false := by
    rcases isBreak_cases he with rfl | rfl | rfl | rfl | rfl <;> simp [doubleSigns]
  have hcomma : isBreak ',' := by decide
  have hnil : ([] : List Char) ≠ stop ++ [','] := by simp
  obtain _ | ⟨d, _ | ⟨e, text⟩⟩ := text
  · exact absurd rfl htext
  -- One character in front of the break: no pair with it is a sign.
  · simp only [List.cons_append, List.nil_append] at h ⊢
    rw [nextSign_cons_cons fun _ he => absurd he (hgreater hcomma), hdouble d hcomma] at h
    rw [nextSign_cons_cons fun _ he => absurd he (hgreater hc), hdouble d hc]
    simp only [Bool.false_eq_true, if_false] at h ⊢
    split at h
    · next hsingle =>
      obtain ⟨rfl, hstop⟩ := Prod.mk.inj h
      obtain rfl : stop = [] := by simpa using hstop.symm
      exact if_pos hsingle
    · exact absurd (Prod.mk.inj h).2 hnil
  · by_cases harrow : d = '-' ∧ e = '>' ∧ '>' ∈ text.head?
    · obtain ⟨rfl, rfl, hhead⟩ := harrow
      obtain ⟨later, rfl⟩ := List.head?_eq_some_iff.1 hhead
      simp only [List.cons_append, nextSign] at h ⊢
      simp_all
    · have hhead {e' : Char} (he' : isBreak e') (rest : List Char) :
          d = '-' → e = '>' → '>' ∉ (text ++ e' :: rest).head? := fun hd he =>
        not_mem_head?_append he' (by decide) fun hmem => harrow ⟨hd, he, hmem⟩
      simp only [List.cons_append] at h ⊢
      rw [nextSign_cons_cons (hhead hcomma [])] at h
      rw [nextSign_cons_cons (hhead hc rest)]
      split at h
      · next hpair =>
        obtain ⟨rfl, hstop⟩ := Prod.mk.inj h
        rw [if_pos hpair, List.append_cancel_right hstop]
      · next hpair =>
        rw [if_neg hpair]
        split at h
        · next hsingle =>
          obtain ⟨rfl, hstop⟩ := Prod.mk.inj h
          rw [← List.cons_append, List.append_cancel_right_eq] at hstop
          rw [if_pos hsingle, ← hstop, List.cons_append]
        · exact absurd (Prod.mk.inj h).2 hnil

/-- A token that is neither in quotes nor in brackets. -/
theorem nextToken_of_plain (h : c ∉ ['\'', '"', '\x60', '['])
    (hbytes : c = 'x' ∨ c = 'X' → '\'' ∉ rest.head?) :
    nextToken (c :: rest) =
      if c.isDigit || (c = '.' && rest.head?.any Char.isDigit) then nextNumber (c :: rest)
      else if isNameStart c then nextWord (c :: rest)
      else nextSign (c :: rest) := by
  simp only [List.mem_cons, List.not_mem_nil, or_false, not_or] at h
  unfold nextToken
  split
  · next heq => cases heq
  · next heq => exact absurd (List.cons.inj heq).1 h.1
  · next heq => exact absurd (List.cons.inj heq).1 h.2.1
  · next heq => exact absurd (List.cons.inj heq).1 h.2.2.1
  · next heq => exact absurd (List.cons.inj heq).1 h.2.2.2
  · next heq =>
    obtain ⟨rfl, rfl⟩ := List.cons.inj heq
    exact absurd rfl (hbytes (.inl rfl))
  · next heq =>
    obtain ⟨rfl, rfl⟩ := List.cons.inj heq
    exact absurd rfl (hbytes (.inr rfl))
  · next heq =>
    obtain ⟨rfl, rfl⟩ := List.cons.inj heq
    rfl

/-- A token that ends before a comma ends there before every other break. -/
theorem nextToken_append (htext : text ≠ []) (hc : isBreak c)
    (h : nextToken (text ++ [',']) = (token, stop ++ [','])) :
    nextToken (text ++ c :: rest) = (token, stop ++ c :: rest) := by
  cases text with
  | nil => exact absurd rfl htext
  | cons d text =>
    by_cases hquoted : d ∈ ['\'', '"', '\x60', '[']
    · simp only [List.mem_cons, List.not_mem_nil, or_false] at hquoted
      rcases hquoted with rfl | rfl | rfl | rfl
      · exact nextQuoted_append (by decide) hc h
      · exact nextQuoted_append (by decide) hc h
      · exact nextQuoted_append (by decide) hc h
      · exact nextBracketed_append h c rest
    by_cases hbytes : (d = 'x' ∨ d = 'X') ∧ '\'' ∈ text.head?
    · obtain ⟨hd, hhead⟩ := hbytes
      obtain ⟨digits, rfl⟩ := List.head?_eq_some_iff.1 hhead
      rcases hd with rfl | rfl
      · exact nextBytes_append hc h
      · exact nextBytes_append hc h
    · have hplain {e : Char} (he : isBreak e) (rest : List Char) :
          d = 'x' ∨ d = 'X' → '\'' ∉ (text ++ e :: rest).head? := fun hd =>
        not_mem_head?_append he (by decide) fun hmem => hbytes ⟨hd, hmem⟩
      have hcomma : isBreak ',' := by decide
      rw [List.cons_append, nextToken_of_plain hquoted (hplain hcomma []),
        head?_any_append (by decide) hcomma] at h
      rw [List.cons_append, nextToken_of_plain hquoted (hplain hc rest),
        head?_any_append (by decide) hc]
      split at h
      · next hnumber =>
        rw [← List.cons_append] at h
        rw [if_pos hnumber, ← List.cons_append]
        exact nextNumber_append hc h
      · next hnumber =>
        rw [if_neg hnumber]
        split at h
        · next hstart =>
          rw [← List.cons_append] at h
          rw [if_pos hstart, ← List.cons_append]
          exact nextWord_append hc h
        · next hstart =>
          rw [if_neg hstart]
          exact nextSign_append htext hc h

/-- What a token leaves of a text that ends in a comma ends in it as well. -/
theorem exists_eq_append_of_nextToken {after : List Char} (htext : text ≠ [])
    (h : nextToken (text ++ [',']) = (token, after)) (hafter : after ≠ []) :
    ∃ stop, after = stop ++ [','] ∧ stop.length < text.length := by
  cases text with
  | nil => exact absurd rfl htext
  | cons d text =>
    have hsuffix := nextToken_suffix d (text ++ [','])
    rw [← List.cons_append, h, List.suffix_concat_iff] at hsuffix
    rcases hsuffix with hnil | ⟨stop, rfl, hstop⟩
    · exact absurd hnil hafter
    · exact ⟨stop, rfl, Nat.lt_succ_of_le hstop.length_le⟩

/-- **What is read up to a comma is read in the same way before every other break.** -/
theorem exists_lexed_append {taken : List Lexeme} (h : lexed (text ++ [',']) = taken ++ lexed [','])
    (hc : isBreak c) (rest : List Char) :
    ∃ lexemes, lexed (text ++ c :: rest) = lexemes ++ lexed (c :: rest) ∧
      lexemes.map (·.token) = taken.map (·.token) := by
  induction hn : text.length using Nat.strong_induction_on generalizing text taken with
  | _ n ih =>
    subst hn
    have hcomma : lexed [','] = [⟨.sign [','], [','], []⟩] := rfl
    rcases gapless_append text with hnone | ⟨start, hsuffix, hstart⟩
    · rw [lexed_of_gapless_nil hnone, hcomma] at h
      simp at h
    have hend := hstart ',' [] (by decide)
    have hbreak := hstart c rest hc
    by_cases hempty : start = []
    · rw [if_pos hempty] at hend hbreak
      rw [lexed_congr hend] at h
      obtain rfl : taken = [] := by simpa using h
      exact ⟨[], lexed_congr hbreak, rfl⟩
    rw [if_neg hempty] at hend hbreak
    have hne (c : Char) (rest : List Char) : start ++ c :: rest ≠ [] :=
      List.append_ne_nil_of_right_ne_nil _ (List.cons_ne_nil _ _)
    obtain ⟨token, after, htoken⟩ : ∃ token after, nextToken (start ++ [',']) = (token, after) :=
      ⟨_, _, rfl⟩
    rw [lexed_of_gapless hend (hne _ _) htoken] at h
    cases taken with
    | nil =>
      -- The only lexeme would start at the comma, and not with a token before it.
      rw [hcomma, List.nil_append, List.cons.injEq, Lexeme.mk.injEq] at h
      exact absurd h.1.2.1 (by simpa using hempty)
    | cons first taken =>
      obtain ⟨rfl, hlater⟩ := List.cons.inj h
      have hafter : after ≠ [] := by
        rintro rfl
        rw [hcomma] at hlater
        simp [lexed, lexemesUpTo] at hlater
      obtain ⟨stop, rfl, hlength⟩ := exists_eq_append_of_nextToken hempty htoken hafter
      obtain ⟨lexemes, hlexemes, htokens⟩ :=
        ih stop.length (hlength.trans_le hsuffix.length_le) hlater rfl
      refine ⟨⟨token, start ++ c :: rest, stop ++ c :: rest⟩ :: lexemes, ?_, ?_⟩
      · rw [lexed_of_gapless hbreak (hne _ _) (nextToken_append hempty hc htoken), hlexemes]
        rfl
      · rw [List.map_cons, List.map_cons, htokens]

end TodoLedger.Sql
