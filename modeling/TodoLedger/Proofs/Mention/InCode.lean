import TodoLedger.Proofs.Mention.Recognition

/-!
# Mentions in code

Code as its authors mark it, and how much of it is ignored.

* A block reaches from a fence to the next fence of the same marker, or to the end of the text
  (`Place.InBlock`). An inline span reaches from a run of backticks to the next run of the same
  length in its line (`Place.InSpan`).
* **The handles that are found are those mentioned outside of code, in every text whose fences pair up
  and whose backticks stand alone**; in general a handle mentioned in code only is found exactly if it
  is so at a place that counts (`found_outside_code_iff`).
* Longer runs of backticks and fences of the other marker let mentions in code through
  (`found_inside_code`).
-/

namespace TodoLedger.Mention

open TodoLedger.Text

variable {text : String}

/-! ### Blocks -/

/-- The marker of a fence. -/
def fence? (line : List Char) : Option Marker :=
  if Marker.ticks.Starts line then some .ticks
  else if Marker.tildes.Starts line then some .tildes
  else none

/-- The block that is open after some fences. The first argument is the block that was open before
them; a fence of another marker than that of the open block belongs to the block. -/
def blockAfter : Option Marker → List Marker → Option Marker
  | block, [] => block
  | none, marker :: rest => blockAfter (some marker) rest
  | some block, marker :: rest => blockAfter (if marker = block then none else some block) rest

/-- The place is in a block or in a fence. -/
def Place.InBlock (place : Place) : Prop :=
  blockAfter none (place.above.filterMap fence?) ≠ none ∨ IsFence place.line

/-- The fences pair up: each block ends with the next fence. -/
def Paired : List Marker → Prop
  | first :: second :: rest => first = second ∧ Paired rest
  | _ => True

/-- The fences of the text pair up. -/
def FencesPair (text : String) : Prop := Paired ((lines text.toList).filterMap fence?)

instance (place : Place) : Decidable place.InBlock :=
  inferInstanceAs (Decidable (_ ∨ _))

instance decidablePaired : DecidablePred Paired
  | [] => .isTrue trivial
  | [_] => .isTrue trivial
  | first :: second :: rest =>
    have := decidablePaired rest
    inferInstanceAs (Decidable (first = second ∧ Paired rest))

instance (text : String) : Decidable (FencesPair text) :=
  inferInstanceAs (Decidable (Paired _))

/-- A line has a marker of a fence if and only if it is a fence. -/
theorem isSome_fence?_iff {line : List Char} : (fence? line).isSome = true ↔ IsFence line := by
  unfold fence?
  split
  · next h => exact iff_of_true rfl ⟨_, h⟩
  · next hticks =>
    split
    · next h => exact iff_of_true rfl ⟨_, h⟩
    · next htildes =>
      refine iff_of_false Bool.false_ne_true ?_
      rintro ⟨_ | _, h⟩
      · exact hticks h
      · exact htildes h

/-- There are as many markers as fences. -/
theorem length_filterMap_fence? (above : List (List Char)) :
    (above.filterMap fence?).length = above.countP (IsFence ·) := by
  rw [List.length_filterMap_eq_countP]
  refine List.countP_congr fun line _ => ?_
  rw [isSome_fence?_iff, decide_eq_true_iff]

/-- Where fences pair up, a block is open after an odd number of them. -/
theorem blockAfter_eq_none_iff {fences later : List Marker} (h : Paired (fences ++ later)) :
    blockAfter none fences = none ↔ Even fences.length := by
  induction fences using List.twoStepInduction with
  | nil => simp [blockAfter]
  | singleton marker => simp [blockAfter]
  | cons_cons first second rest ih _ =>
    obtain ⟨rfl, hrest⟩ := h
    rw [blockAfter, blockAfter, if_pos rfl, ih hrest, List.length_cons, List.length_cons,
      Nat.even_add_one, Nat.even_add_one, not_not]

/-- Where fences pair up, a place is outside of blocks if an even number of fences precede its line,
which is none. -/
theorem Place.not_inBlock_iff {place : Place} (hfences : FencesPair text) (hin : place.IsIn text) :
    ¬ place.InBlock ↔ ¬ IsFence place.line ∧ Even (place.above.countP (IsFence ·)) := by
  obtain ⟨below, hlines⟩ := hin
  rw [FencesPair, hlines, List.filterMap_append] at hfences
  rw [InBlock, not_or, ne_eq, not_not, blockAfter_eq_none_iff hfences, length_filterMap_fence?,
    and_comm]

/-! ### Inline spans -/

/-- The lengths of the runs of backticks of a text, from left to right. -/
def tickRuns : List Char → List Nat
  | [] => []
  | c :: rest =>
    if c ≠ tick then tickRuns rest
    else if rest.head? = some tick then (tickRuns rest).modifyHead (· + 1)
    else 1 :: tickRuns rest

/-- The span that is open after some runs of backticks, by the length of the run that opened it. A
run opens a span if a later one of its length can close it; `later` are the runs that follow. -/
def spanAfter (later : List Nat) : Option Nat → List Nat → Option Nat
  | span, [] => span
  | none, length :: rest =>
    spanAfter later (if length ∈ rest ++ later then some length else none) rest
  | some span, length :: rest => spanAfter later (if length = span then none else some span) rest

/-- The place is in an inline span. -/
def Place.InSpan (place : Place) : Prop :=
  spanAfter (tickRuns place.after) none (tickRuns place.before) ≠ none

/-- The place is in code. -/
def Place.InCode (place : Place) : Prop := place.InBlock ∨ place.InSpan

instance (place : Place) : Decidable place.InSpan :=
  inferInstanceAs (Decidable (_ ≠ none))

instance (place : Place) : Decidable place.InCode :=
  inferInstanceAs (Decidable (_ ∨ _))

/-- Outside of blocks, no two backticks stand side by side in a line with an `@`. -/
def TicksAlone (text : String) : Prop :=
  ∀ place : Place, place.IsIn text → ¬ place.InBlock → ∀ length ∈ tickRuns place.line, length = 1

/-- A text that starts with a backtick has a run. -/
theorem tickRuns_ne_nil {rest : List Char} (h : rest.head? = some tick) : tickRuns rest ≠ [] := by
  induction rest with
  | nil => cases h
  | cons c rest ih =>
    obtain rfl : c = tick := Option.some.inj h
    rw [tickRuns, if_neg (not_not.2 rfl)]
    split
    · next hnext => simpa using ih hnext
    · exact List.cons_ne_nil _ _

/-- An `@` divides the runs of its line. -/
theorem tickRuns_append (before after : List Char) :
    tickRuns (before ++ '@' :: after) = tickRuns before ++ tickRuns after := by
  induction before with
  | nil =>
    have hat : '@' ≠ tick := by decide
    exact if_pos hat
  | cons c rest ih =>
    have hhead : (rest ++ '@' :: after).head? = some tick ↔ rest.head? = some tick := by
      cases rest with
      | nil => simp [tick]
      | cons d rest => simp
    rw [List.cons_append, tickRuns, tickRuns, ih]
    simp only [hhead]
    split
    · rfl
    · split
      · next hnext =>
        obtain ⟨length, later, hruns⟩ := List.exists_cons_of_ne_nil (tickRuns_ne_nil hnext)
        rw [hruns]
        rfl
      · rfl

/-- The runs hold all backticks. -/
theorem sum_tickRuns (line : List Char) : (tickRuns line).sum = line.count tick := by
  induction line with
  | nil => rfl
  | cons c rest ih =>
    rw [tickRuns, List.count_cons, ← ih]
    split
    · next hc => simp [hc]
    · next hc =>
      obtain rfl := not_not.1 hc
      split
      · next hnext =>
        obtain ⟨length, later, hruns⟩ := List.exists_cons_of_ne_nil (tickRuns_ne_nil hnext)
        simp [hruns]
        omega
      · simp [Nat.add_comm]

/-- Backticks that stand alone are as many runs. -/
theorem tickRuns_eq_replicate {line : List Char} (h : ∀ length ∈ tickRuns line, length = 1) :
    tickRuns line = List.replicate (line.count tick) 1 := by
  have hruns : tickRuns line = List.replicate (tickRuns line).length 1 :=
    List.eq_replicate_iff.2 ⟨rfl, h⟩
  have hsum : (tickRuns line).sum = (tickRuns line).length := by
    rw [hruns, List.sum_replicate_nat, List.length_replicate, Nat.mul_one]
  rw [← sum_tickRuns, hsum]
  exact hruns

/-- Where backticks stand alone, a span is open after an odd number of them, if another one
follows. -/
theorem spanAfter_eq_none_iff (later count : Nat) :
    spanAfter (List.replicate later 1) none (List.replicate count 1) = none ↔
      Even count ∨ later = 0 := by
  induction count using Nat.twoStepInduction with
  | zero => simp [spanAfter]
  | one =>
    cases later with
    | zero => exact iff_of_true rfl (.inr rfl)
    | succ later =>
      have hlater : 1 ∈ [] ++ List.replicate (later + 1) 1 := List.mem_cons_self
      rw [List.replicate_one, spanAfter, if_pos hlater]
      exact iff_of_false (Option.some_ne_none 1) (by simp)
  | more count ih _ =>
    have hnext : 1 ∈ 1 :: List.replicate count 1 ++ List.replicate later 1 := List.mem_cons_self
    rw [List.replicate_succ, List.replicate_succ, spanAfter, if_pos hnext, spanAfter, if_pos rfl, ih,
      Nat.even_add_one, Nat.even_add_one, not_not]

/-- Where backticks stand alone, a place is in a span if an odd number of them precede it in its line
and another one follows. -/
theorem Place.not_inSpan_iff {place : Place} (h : ∀ length ∈ tickRuns place.line, length = 1) :
    ¬ place.InSpan ↔ Even (place.before.count tick) ∨ tick ∉ place.after := by
  rw [line, tickRuns_append, List.forall_mem_append] at h
  rw [InSpan, ne_eq, not_not, tickRuns_eq_replicate h.1, tickRuns_eq_replicate h.2,
    spanAfter_eq_none_iff, List.count_eq_zero]

/-! ### What is found -/

/-- The text holds the handle after an `@` outside of code. -/
def StandsOutside (text handle : String) : Prop :=
  ∃ place : Place, place.IsIn text ∧ handle.toList <+: place.after ∧ ¬ place.InCode

/-- Where fences pair up and backticks stand alone, the places that count are those outside of
code. -/
theorem Place.counts_iff {place : Place} (hfences : FencesPair text) (hticks : TicksAlone text)
    (hin : place.IsIn text) : place.Counts ↔ ¬ place.InCode := by
  rw [InCode, not_or, Counts, ← and_assoc, ← not_inBlock_iff hfences hin]
  refine and_congr_right fun hblock => ?_
  rw [not_inSpan_iff (hticks place hin hblock)]

/-- **The handles that are found are those mentioned outside of code**, in every text whose fences
pair up and whose backticks stand alone. In any text, no handle is found that stands in code only,
exactly if this is so of the handles mentioned in code at a place that counts. -/
theorem found_outside_code_iff (text : String) :
    ((∀ handle ∈ (scan true text).all, StandsOutside text handle) ↔
      ∀ place : Place, place.IsIn text → place.Counts → place.InCode →
        ∀ handle, place.Mentions handle → StandsOutside text handle) ∧
    (FencesPair text → TicksAlone text → ∀ handle, handle ∈ (scan true text).all ↔
      ∃ place : Place, place.IsIn text ∧ ¬ place.InCode ∧ place.Mentions handle) := by
  refine ⟨⟨fun hfound place hin hcounts _ handle hmentions => ?_, fun hcode handle hfound => ?_⟩,
    fun hfences hticks handle => ?_⟩
  · exact hfound handle (mem_all_scan.2 ⟨place, hin, fun _ => hcounts, hmentions⟩)
  · obtain ⟨place, hin, hcounts, hmentions⟩ := mem_all_scan.1 hfound
    by_cases hplace : place.InCode
    · exact hcode place hin (hcounts rfl) hplace handle hmentions
    · refine ⟨place, hin, ?_, hplace⟩
      rw [hmentions.handle_eq]
      exact trimmedRun_prefix place.after
  · rw [mem_all_scan]
    refine exists_congr fun place => and_congr_right fun hin => ?_
    rw [imp_iff_right rfl, Place.counts_iff hfences hticks hin]

/-- A text with inline code and a block: bob is found, and mentioned outside of both. -/
theorem found_outside_code_iff_pasted :
    FencesPair "`@ada` and @bob\n```\n@eve\n```" ∧ TicksAlone "`@ada` and @bob\n```\n@eve\n```" ∧
      ∃ place : Place, place.IsIn "`@ada` and @bob\n```\n@eve\n```" ∧ ¬ place.InCode ∧
        place.Mentions "bob" := by
  have hfences : FencesPair "`@ada` and @bob\n```\n@eve\n```" := by decide +kernel
  have hlines : ∀ line ∈ lines "`@ada` and @bob\n```\n@eve\n```".toList,
      IsFence line ∨ ∀ length ∈ tickRuns line, length = 1 := by decide +kernel
  have hticks : TicksAlone "`@ada` and @bob\n```\n@eve\n```" := by
    rintro place ⟨below, hsplit⟩ hout
    have hmem : place.line ∈ lines "`@ada` and @bob\n```\n@eve\n```".toList := by
      rw [hsplit]
      exact List.mem_append_right _ List.mem_cons_self
    exact (hlines _ hmem).resolve_left fun hfence => hout (.inr hfence)
  have hfound : "bob" ∈ (scan true "`@ada` and @bob\n```\n@eve\n```").all := by decide +kernel
  exact ⟨hfences, hticks, ((found_outside_code_iff _).2 hfences hticks "bob").1 hfound⟩

/-- **Some handles that stand in code only are found**: bob's between runs of two backticks, and in a
block that holds a line of tildes. -/
theorem found_inside_code :
    (¬ ∀ handle ∈ (scan true "`` @bob ``").all, StandsOutside "`` @bob ``" handle) ∧
    ¬ ∀ handle ∈ (scan true "```\n~~~\n@bob\n```").all,
      StandsOutside "```\n~~~\n@bob\n```" handle := by
  constructor
  · intro h
    have hfound : "bob" ∈ (scan true "`` @bob ``").all := by decide +kernel
    obtain ⟨place, hin, -, hout⟩ := h "bob" hfound
    have hplace : place = ⟨[], "`` ".toList, "bob ``".toList⟩ :=
      Place.eq_of_isIn hin [] (by decide +kernel) (by decide) (by decide) (by decide)
    rw [hplace] at hout
    exact hout (by decide +kernel)
  · intro h
    have hfound : "bob" ∈ (scan true "```\n~~~\n@bob\n```").all := by decide +kernel
    obtain ⟨place, hin, -, hout⟩ := h "bob" hfound
    have hplace : place = ⟨["```".toList, "~~~".toList], [], "bob".toList⟩ :=
      Place.eq_of_isIn hin ["```".toList] (by decide +kernel) (by decide) (by decide) (by decide)
    rw [hplace] at hout
    exact hout (by decide +kernel)

end TodoLedger.Mention
