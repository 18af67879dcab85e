import Mathlib.Algebra.Order.Ring.Nat
import Mathlib.Algebra.Ring.Parity
import TodoLedger.Mention.Code
import TodoLedger.Proofs.Mention.Grammar

/-!
# The prose of a text

Which lines count and what they show, said without the functions that read them, and what the
blanking of code does to the mentions of a line.

* A fence starts, after at most three spaces, with three backticks or three tildes (`IsFence`).
* `Blanks line seen`: `seen` is the line with spaces in place of each span from one backtick to the
  next.
* **The lines that count** are all lines, or those that are no fence and follow an even number of
  fences, blanked (`mem_proseLines`).
* **Blanking neither makes nor changes a mention** (`Blanks.names_iff`): an `@` of the blanked line is
  one of the line itself (`Blanks.exists_split`), and it is kept unless an odd number of backticks
  precede it and another one follows (`Blanks.append_cons`).
-/

namespace TodoLedger.Mention

open TodoLedger.Text

variable {line seen before after shown : List Char}

/-! ### Fences -/

/-- What a fence is made of. -/
inductive Marker where
  | ticks
  | tildes
deriving DecidableEq, Repr

/-- The character of a fence. -/
def Marker.char : Marker → Char
  | .ticks => tick
  | .tildes => '~'

/-- The line starts, after at most three spaces, with three times the marker. -/
def Marker.Starts (marker : Marker) (line : List Char) : Prop :=
  ∃ indent rest, indent ≤ 3 ∧
    line = List.replicate indent ' ' ++ (List.replicate 3 marker.char ++ rest)

/-- The line is a fence. -/
def IsFence (line : List Char) : Prop := ∃ marker : Marker, marker.Starts line

/-- A line starts a fence of a marker if three of its characters follow at most three spaces. -/
theorem Marker.starts_iff {marker : Marker} :
    marker.Starts line ↔ (line.takeWhile (· = ' ')).length ≤ 3 ∧
      (line.dropWhile (· = ' ')).take 3 = List.replicate 3 marker.char := by
  constructor
  · rintro ⟨indent, rest, hindent, rfl⟩
    have hspaces : ∀ c ∈ List.replicate indent ' ', decide (c = ' ') = true := fun c hc => by
      simpa using List.eq_of_mem_replicate hc
    have hmarker : ∀ c ∈ (List.replicate 3 marker.char ++ rest).head?, decide (c = ' ') = false := by
      cases marker <;> simp [Marker.char, tick, List.replicate_succ]
    rw [takeWhile_append_of_head? hspaces hmarker, dropWhile_append_of_head? hspaces hmarker]
    exact ⟨by simpa using hindent, List.take_left' (by simp)⟩
  · rintro ⟨hindent, hmarker⟩
    refine ⟨(line.takeWhile (· = ' ')).length, (line.dropWhile (· = ' ')).drop 3, hindent, ?_⟩
    have hspaces : line.takeWhile (· = ' ') =
        List.replicate (line.takeWhile (· = ' ')).length ' ' :=
      List.eq_replicate_iff.2 ⟨rfl, fun c hc => by simpa using List.mem_takeWhile_imp hc⟩
    rw [← hspaces, ← hmarker, List.take_append_drop, List.takeWhile_append_dropWhile]

instance (marker : Marker) (line : List Char) : Decidable (marker.Starts line) :=
  decidable_of_iff _ Marker.starts_iff.symm

/-- `isFence` holds of the fences. -/
theorem isFence_iff : isFence line = true ↔ IsFence line := by
  have hmarkers : IsFence line ↔ Marker.ticks.Starts line ∨ Marker.tildes.Starts line := by
    constructor
    · rintro ⟨_ | _, h⟩
      · exact .inl h
      · exact .inr h
    · rintro (h | h)
      · exact ⟨_, h⟩
      · exact ⟨_, h⟩
  rw [hmarkers, Marker.starts_iff, Marker.starts_iff, ← and_or_left]
  simp only [isFence, Bool.and_eq_true, Bool.or_eq_true, decide_eq_true_eq, beq_iff_eq]
  rfl

instance (line : List Char) : Decidable (IsFence line) := decidable_of_iff _ isFence_iff

/-! ### Inline spans -/

/-- `seen` is the line with spaces in place of its inline spans, as many as a span has bytes. A span
reaches from a backtick to the next one, and the next span starts after it. -/
inductive Blanks : List Char → List Char → Prop where
  | plain {line : List Char} : line.count tick ≤ 1 → Blanks line line
  | span {before code rest seen : List Char} : tick ∉ before → tick ∉ code → Blanks rest seen →
      Blanks (before ++ (tick :: code ++ tick :: rest))
        (before ++ ((tick :: code ++ [tick]).flatMap blank ++ seen))

/-- Before the first backtick nothing is blanked. -/
theorem blankSpans_append (h : tick ∉ before) (rest : List Char) :
    blankSpans false (before ++ rest) = before ++ blankSpans false rest := by
  induction before with
  | nil => rfl
  | cons c before ih =>
    rw [List.mem_cons, not_or] at h
    simp [blankSpans, Ne.symm h.1, ih h.2]

/-- A single backtick opens no span. -/
theorem blankSpans_of_count (h : line.count tick ≤ 1) : blankSpans false line = line := by
  by_cases hmem : tick ∈ line
  · obtain ⟨before, after, rfl, hbefore⟩ := List.eq_append_cons_of_mem hmem
    rw [List.count_append, List.count_cons_self] at h
    have hafter : tick ∉ after := List.count_eq_zero.1 (by omega)
    have hrest : blankSpans false after = after := by
      simpa [blankSpans] using blankSpans_append hafter []
    rw [blankSpans_append hbefore, blankSpans, hrest]
    simp [hafter]
  · simpa [blankSpans] using blankSpans_append hmem []

/-- Inside a span everything is blanked up to the next backtick. -/
theorem blankSpans_inside {code : List Char} (h : tick ∉ code) (rest : List Char) :
    blankSpans true (code ++ tick :: rest) =
      (code ++ [tick]).flatMap blank ++ blankSpans false rest := by
  induction code with
  | nil => simp [blankSpans]
  | cons c code ih =>
    rw [List.mem_cons, not_or] at h
    rw [List.cons_append, blankSpans, if_pos rfl, decide_eq_true (Ne.symm h.1), ih h.2,
      List.cons_append, List.flatMap_cons, List.append_assoc]

/-- A span is blanked together with its backticks. -/
theorem blankSpans_span {code : List Char} (h : tick ∉ code) (rest : List Char) :
    blankSpans false (tick :: code ++ tick :: rest) =
      (tick :: code ++ [tick]).flatMap blank ++ blankSpans false rest := by
  have hnext : (code ++ tick :: rest).contains tick = true := by simp
  rw [List.cons_append, blankSpans, hnext, blankSpans_inside h, List.cons_append,
    List.flatMap_cons, List.append_assoc]
  rfl

/-- What `blankSpans` gives blanks the spans of a line. -/
theorem blanks_blankSpans (line : List Char) : Blanks line (blankSpans false line) := by
  induction hlength : line.length using Nat.strong_induction_on generalizing line with
  | _ length ih =>
    by_cases hcount : line.count tick ≤ 1
    · rw [blankSpans_of_count hcount]
      exact .plain hcount
    · -- The first two of several backticks make a span, and what follows it is shorter.
      have hmem : tick ∈ line := List.count_pos_iff.1 (by omega)
      obtain ⟨before, after, rfl, hbefore⟩ := List.eq_append_cons_of_mem hmem
      have hnext : tick ∈ after := by
        rw [List.count_append, List.count_eq_zero.2 hbefore, List.count_cons_self] at hcount
        exact List.count_pos_iff.1 (by omega)
      obtain ⟨code, rest, rfl, hcode⟩ := List.eq_append_cons_of_mem hnext
      rw [blankSpans_append hbefore, ← List.cons_append, blankSpans_span hcode]
      refine .span hbefore hcode (ih rest.length ?_ rest rfl)
      simp only [List.length_append, List.length_cons] at hlength
      omega

/-- `blankSpans` blanks the inline spans. -/
theorem blanks_iff : Blanks line seen ↔ seen = blankSpans false line := by
  refine ⟨fun h => ?_, fun h => h ▸ blanks_blankSpans line⟩
  induction h with
  | plain hcount => exact (blankSpans_of_count hcount).symm
  | span hbefore hcode _ ih => rw [blankSpans_append hbefore, blankSpans_span hcode, ih]

/-! ### The lines that count -/

/-- What a line shows: itself, or the line without its inline spans. -/
def Shows (ignoreCode : Bool) (line seen : List Char) : Prop :=
  if ignoreCode then Blanks line seen else seen = line

/-- `seen` is what a line of the text shows that counts. With code ignored, a line counts if it is no
fence and an even number of fences precede it. -/
def IsProse (ignoreCode : Bool) (text seen : List Char) : Prop :=
  ∃ line above below, lines text = above ++ line :: below ∧
    (ignoreCode = true → ¬ IsFence line ∧ Even (above.countP (IsFence ·))) ∧
      Shows ignoreCode line seen

/-- A line counts if it is no fence and the number of fences above it is even, or odd where the text
starts in a block. -/
theorem mem_unfenced {fenced : Bool} {all : List (List Char)} :
    seen ∈ unfenced fenced all ↔ ∃ line above below, all = above ++ line :: below ∧
      ¬ IsFence line ∧ (fenced = true ↔ Odd (above.countP (IsFence ·))) ∧ Blanks line seen := by
  induction all generalizing fenced with
  | nil => simp [unfenced]
  | cons first rest ih =>
    simp only [exists_split_cons_iff, exists_or, exists_eq_left']
    rw [unfenced]
    by_cases hfence : IsFence first
    · -- A fence turns the state and the parity alike.
      have hodd (above : List (List Char)) : ((!fenced) = true ↔ Odd (above.countP (IsFence ·))) ↔
          (fenced = true ↔ Odd ((first :: above).countP (IsFence ·))) := by
        rw [List.countP_cons, if_pos (decide_eq_true hfence), Nat.odd_add_one]
        cases fenced <;> simp
      rw [if_pos (isFence_iff.2 hfence), ih]
      simp only [hodd, hfence, not_true, false_and, false_or]
    · have hcount (above : List (List Char)) :
          (first :: above).countP (IsFence ·) = above.countP (IsFence ·) := by
        rw [List.countP_cons, if_neg (by simpa using hfence), Nat.add_zero]
      rw [if_neg (mt isFence_iff.1 hfence)]
      simp only [hcount, hfence, not_false_eq_true, true_and, List.countP_nil]
      cases fenced with
      | true =>
        rw [if_pos rfl, ih]
        simp
      | false =>
        rw [if_neg Bool.false_ne_true, List.mem_cons, ih, ← blanks_iff]
        simp

/-- **The lines that count** are what `proseLines` gives. -/
theorem mem_proseLines {ignoreCode : Bool} {text : List Char} :
    seen ∈ proseLines ignoreCode text ↔ IsProse ignoreCode text seen := by
  cases ignoreCode with
  | true =>
    simp only [proseLines, IsProse, Shows, if_true, mem_unfenced, forall_const, and_assoc,
      Bool.false_eq_true, false_iff, Nat.not_odd_iff_even]
  | false =>
    simp only [proseLines, IsProse, Shows, Bool.false_eq_true, if_false, false_implies, true_and]
    constructor
    · intro hmem
      obtain ⟨above, below, hsplit⟩ := List.append_of_mem hmem
      exact ⟨seen, above, below, hsplit, rfl⟩
    · rintro ⟨line, above, below, hsplit, rfl⟩
      rw [hsplit]
      exact List.mem_append_right _ List.mem_cons_self

/-! ### Mentions in a blanked line -/

/-- An `@` stands in the first or in the second part of a text. -/
theorem append_eq_append_cons {first second : List Char}
    (h : first ++ second = shown ++ '@' :: seen) :
    (∃ between, first = shown ++ '@' :: between ∧ seen = between ++ second) ∨
      ∃ between, shown = first ++ between ∧ second = between ++ '@' :: seen := by
  obtain ⟨between, hshown, hsecond⟩ | ⟨between, hfirst, hseen⟩ := List.append_eq_append_iff.1 h
  · exact .inr ⟨between, hshown, hsecond⟩
  · cases between with
    | nil => exact .inr ⟨[], by simpa using hfirst.symm, hseen.symm⟩
    | cons c between =>
      obtain ⟨rfl, hrest⟩ := List.cons.inj hseen
      exact .inl ⟨between, hfirst, hrest⟩

/-- No `@` is left where code was. -/
theorem not_mem_flatMap_blank (text : List Char) : '@' ∉ text.flatMap blank := by
  intro hmem
  obtain ⟨c, -, hc⟩ := List.mem_flatMap.1 hmem
  exact absurd (mem_blank hc) (by decide)

/-- A span adds two backticks. -/
theorem count_span {first code rest : List Char} (hfirst : tick ∉ first) (hcode : tick ∉ code) :
    (first ++ (tick :: code ++ tick :: rest)).count tick = rest.count tick + 2 := by
  rw [List.count_append, List.count_append, List.count_cons_self, List.count_cons_self,
    List.count_eq_zero.2 hfirst, List.count_eq_zero.2 hcode]
  omega

/-- **An `@` of the blanked line is one of the line**, between the same two parts. No span is open
there. -/
theorem Blanks.exists_split {whole : List Char} (h : Blanks line whole)
    (hwhole : whole = shown ++ '@' :: seen) :
    ∃ before after, line = before ++ '@' :: after ∧ Blanks before shown ∧ Blanks after seen ∧
      (Even (before.count tick) ∨ tick ∉ after) := by
  induction h generalizing shown with
  | plain hcount =>
    subst hwhole
    rw [List.count_append, List.count_cons] at hcount
    refine ⟨shown, seen, rfl, .plain (by omega), .plain (by omega), ?_⟩
    by_cases hnone : shown.count tick = 0
    · exact .inl (hnone ▸ Even.zero)
    · exact .inr (List.count_eq_zero.1 (by omega))
  | @span first code rest whole hfirst hcode hrest ih =>
    -- The `@` stands before the span or behind it: there is none among the spaces.
    obtain ⟨between, rfl, rfl⟩ | ⟨between, rfl, hbetween⟩ := append_eq_append_cons hwhole
    · rw [List.mem_append, List.mem_cons, not_or, not_or] at hfirst
      refine ⟨shown, between ++ (tick :: code ++ tick :: rest), by simp, ?_,
        .span hfirst.2.2 hcode hrest, .inl ?_⟩
      · exact .plain (by rw [List.count_eq_zero.2 hfirst.1]; omega)
      · rw [List.count_eq_zero.2 hfirst.1]
        exact Even.zero
    · obtain ⟨_, hblank, -⟩ | ⟨between, rfl, hlater⟩ := append_eq_append_cons hbetween
      · refine absurd ?_ (not_mem_flatMap_blank (tick :: code ++ [tick]))
        rw [hblank]
        exact List.mem_append_right _ List.mem_cons_self
      · obtain ⟨before, after, rfl, hbefore, hafter, hopen⟩ := ih hlater
        refine ⟨first ++ (tick :: code ++ tick :: before), after, by simp,
          .span hfirst hcode hbefore, hafter, hopen.imp_left fun heven => ?_⟩
        rw [count_span hfirst hcode]
        exact heven.add even_two

/-- What stands before the first backtick stays as it is. -/
theorem Blanks.append_left (h : Blanks line seen) (hbefore : tick ∉ before) :
    Blanks (before ++ line) (before ++ seen) := by
  cases h with
  | plain hcount =>
    exact .plain (by rw [List.count_append, List.count_eq_zero.2 hbefore]; omega)
  | @span first code rest seen hfirst hcode hrest =>
    have hnone : tick ∉ before ++ first := by
      rw [List.mem_append, not_or]
      exact ⟨hbefore, hfirst⟩
    have hspan := Blanks.span hnone hcode hrest
    rwa [List.append_assoc, List.append_assoc] at hspan

/-- **An `@` at which no span is open stays**, and both parts are blanked by themselves. -/
theorem Blanks.append_cons (hbefore : Blanks before shown) (hafter : Blanks after seen)
    (hopen : Even (before.count tick) ∨ tick ∉ after) :
    Blanks (before ++ '@' :: after) (shown ++ '@' :: seen) := by
  induction hbefore with
  | @plain before hcount =>
    by_cases hnone : tick ∈ before
    · have hone : before.count tick = 1 := le_antisymm hcount (List.count_pos_iff.2 hnone)
      have hrest : tick ∉ after := hopen.resolve_left (by rw [hone]; decide)
      have hcountAfter : after.count tick = 0 := List.count_eq_zero.2 hrest
      obtain rfl : seen = after := by
        rw [blanks_iff.1 hafter, blankSpans_of_count (by omega)]
      refine .plain ?_
      rw [List.count_append, List.count_cons, hone, hcountAfter]
      decide
    · rw [← List.singleton_append, ← List.singleton_append (l := seen), ← List.append_assoc,
        ← List.append_assoc]
      refine hafter.append_left ?_
      rw [List.mem_append, not_or]
      exact ⟨hnone, by decide⟩
  | @span first code rest shown hfirst hcode _ ih =>
    rw [count_span hfirst hcode, Nat.even_add] at hopen
    have hspan := Blanks.span hfirst hcode (ih (hopen.imp_left fun heven => heven.2 even_two))
    simpa using hspan

/-- What does not start with a character of the run does not prolong it. -/
theorem takeWhile_append_congr {p : Char → Bool} (hbefore : before.takeWhile p = [])
    (hafter : after.takeWhile p = []) : (line ++ before).takeWhile p = (line ++ after).takeWhile p := by
  rw [List.takeWhile_append, List.takeWhile_append, hbefore, hafter]

/-- A predicate that holds of no backtick and of no space sees the same start of both lines. -/
theorem Blanks.takeWhile_eq {p : Char → Bool} (h : Blanks line seen) (htick : p tick = false)
    (hspace : p ' ' = false) : seen.takeWhile p = line.takeWhile p := by
  cases h with
  | plain => rfl
  | @span first code rest seen =>
    have hline : (tick :: code ++ tick :: rest).takeWhile p = [] := by simp [htick]
    have hseen : ((tick :: code ++ [tick]).flatMap blank ++ seen).takeWhile p = [] := by
      have hblank : blank tick = [' '] := rfl
      simp [hblank, hspace]
    exact takeWhile_append_congr hseen hline

/-- Of two characters that may be missing only the first one matters, if the property holds of the
second. -/
theorem forall_mem_or {p : Char → Prop} {first second : Option Char} (h : ∀ c ∈ second, p c) :
    (∀ c ∈ first.or second, p c) ↔ ∀ c ∈ first, p c := by
  cases first with
  | none => simpa using h
  | some c => simp

/-- The end of a line joins what follows it exactly when the end of the blanked line does. -/
theorem Blanks.free_iff (h : Blanks line seen) :
    (∀ c ∈ seen.getLast?, joins c = false) ↔ ∀ c ∈ line.getLast?, joins c = false := by
  induction h with
  | plain => rfl
  | @span first code rest seen _ _ _ ih =>
    have htick : ∀ c ∈ (first ++ (tick :: code ++ [tick])).getLast?, joins c = false := by
      simp only [List.getLast?_append, List.getLast?_singleton, Option.some_or, Option.mem_some_iff]
      rintro _ rfl
      decide +kernel
    have hspace : ∀ c ∈ (first ++ (tick :: code ++ [tick]).flatMap blank).getLast?,
        joins c = false := by
      have hblank : blank tick = [' '] := rfl
      simp only [List.flatMap_append, List.flatMap_singleton, hblank, List.getLast?_append,
        List.getLast?_singleton, Option.some_or, Option.mem_some_iff]
      rintro _ rfl
      decide +kernel
    rw [← List.append_assoc, List.getLast?_append, forall_mem_or hspace, ih]
    have hline : first ++ (tick :: code ++ tick :: rest) = first ++ (tick :: code ++ [tick]) ++ rest := by
      simp
    rw [hline, List.getLast?_append, forall_mem_or htick]

/-- **Blanking neither makes nor changes a mention**: an `@` mentions a handle in the blanked line
exactly when it does so in the line. -/
theorem Blanks.names_iff {handle : List Char} (hbefore : Blanks before shown)
    (hafter : Blanks after seen) : Names shown seen handle ↔ Names before after handle := by
  have hstarts (text : List Char) :
      (∃ c ∈ text.head?, isWordChar c) ↔ text.takeWhile isWordChar ≠ [] := by
    cases text with
    | nil => simp
    | cons c rest => cases hc : isWordChar c <;> simp [hc]
  have hrun : trimmedRun seen = trimmedRun after := by
    rw [trimmedRun, hafter.takeWhile_eq (by decide) (by decide), trimmedRun]
  constructor
  · rintro ⟨hword, hfree, rfl⟩
    refine ⟨?_, hbefore.free_iff.1 hfree, hrun⟩
    rw [hstarts, ← hafter.takeWhile_eq (by decide) (by decide), ← hstarts]
    exact hword
  · rintro ⟨hword, hfree, rfl⟩
    refine ⟨?_, hbefore.free_iff.2 hfree, hrun.symm⟩
    rw [hstarts, hafter.takeWhile_eq (by decide) (by decide), ← hstarts]
    exact hword

end TodoLedger.Mention
