import TodoLedger.Mention.Scan
import TodoLedger.Proofs.Mention.Prose
import TodoLedger.Proofs.TaskList

/-!
# Mentions in a task list

What is settled of a body decides to whom it refers, so boxes and white space may change without a
mention being missed.

* `ReadsAlike line seen`: both lines are fences or both are not, and their mentions are the same,
  with code and without.
* A line reads like the line without white space at its end (`readsAlike_trimEnd`) and like the line
  with its box unticked (`readsAlike_untick`): nobody is mentioned before the box, and no run of
  mentions reaches it.
* **A body has the mentions of what is settled of it** (`scan_eq_collect`), so **bodies that differ in
  their checkboxes only have the same mentions** (`scan_eq_of_onlyStatesChanged`).
-/

namespace TodoLedger.Mention

open TodoLedger.Text TodoLedger.TaskList

variable {c : Char} {line seen before rest blank lead reversed reversed' : List Char}

/-! ### Occurrences -/

/-- Where no `@` stands, nobody is mentioned. -/
theorem occurrencesAfter_append (h : '@' ∉ before) (reversed rest : List Char) :
    occurrencesAfter reversed (before ++ rest) =
      occurrencesAfter (before.reverse ++ reversed) rest := by
  induction before generalizing reversed with
  | nil => rfl
  | cons c before ih =>
    rw [List.mem_cons, not_or] at h
    have hc : ¬ (c = '@' && !reversed.head?.any joins) = true := by simp [Ne.symm h.1]
    rw [List.cons_append, occurrencesAfter, if_neg hc, ih h.2, List.reverse_cons, List.append_assoc]
    rfl

/-- Of what precedes a line's rest, only the last character and whether a run opens the line
matter. -/
theorem occurrencesAfter_congr (hhead : reversed.head? = reversed'.head?)
    (hopening : ∀ later, isOpening (reversed.reverse ++ later) = isOpening (reversed'.reverse ++ later))
    (rest : List Char) : occurrencesAfter reversed rest = occurrencesAfter reversed' rest := by
  induction rest generalizing reversed reversed' with
  | nil => rfl
  | cons c rest ih =>
    have hlater : occurrencesAfter (c :: reversed) rest = occurrencesAfter (c :: reversed') rest := by
      refine ih rfl fun later => ?_
      simpa using hopening (c :: later)
    have hnow : isOpening reversed.reverse = isOpening reversed'.reverse := by
      simpa using hopening []
    rw [occurrencesAfter, occurrencesAfter, hhead, hlater, hnow]

/-- The lines are fences or not alike, and mention the same, with code and without. -/
structure ReadsAlike (line seen : List Char) : Prop where
  fence : isFence line = isFence seen
  written : occurrences line = occurrences seen
  blanked : occurrences (blankSpans false line) = occurrences (blankSpans false seen)

/-! ### White space at the end of a line -/

/-- The handle characters lie between the hyphen and the small z. -/
theorem toNat_of_isHandleChar (h : isHandleChar c) : 45 ≤ c.toNat ∧ c.toNat ≤ 122 := by
  have hbounds {low high : UInt32} (hlow : low ≤ c.val) (hhigh : c.val ≤ high) :
      low.toNat ≤ c.toNat ∧ c.toNat ≤ high.toNat :=
    ⟨UInt32.le_iff_toNat_le.1 hlow, UInt32.le_iff_toNat_le.1 hhigh⟩
  change (c.isUpper || c.isLower || c.isDigit || c = '_' || c = '.' || c = '-') = true at h
  simp only [Bool.or_eq_true, decide_eq_true_eq] at h
  rcases h with ((((hupper | hlower) | hdigit) | rfl) | rfl) | rfl
  · obtain ⟨hlow, hhigh⟩ := of_decide_eq_true hupper
    have hletter : 65 ≤ c.toNat ∧ c.toNat ≤ 90 := hbounds hlow hhigh
    omega
  · obtain ⟨hlow, hhigh⟩ := Bool.and_eq_true_iff.1 hlower
    have hletter : 97 ≤ c.toNat ∧ c.toNat ≤ 122 :=
      hbounds (of_decide_eq_true hlow) (of_decide_eq_true hhigh)
    omega
  · obtain ⟨hlow, hhigh⟩ := Bool.and_eq_true_iff.1 hdigit
    have hletter : 48 ≤ c.toNat ∧ c.toNat ≤ 57 :=
      hbounds (of_decide_eq_true hlow) (of_decide_eq_true hhigh)
    omega
  · decide
  · decide
  · decide

/-- No white space stands in a handle. -/
theorem isHandleChar_of_isBlank (h : isBlank c) : isHandleChar c = false := by
  rw [Bool.eq_false_iff]
  intro hhandle
  have hbounds := toNat_of_isHandleChar hhandle
  simp only [isBlank, Range.cover_iff, blankRanges, List.mem_cons, List.not_mem_nil, or_false,
    exists_eq_or_imp, exists_eq_left] at h
  omega

section Blank

variable (hblank : ∀ c ∈ blank, isBlank c)

include hblank

/-- White space consists of nothing else. -/
theorem not_mem_of_isBlank (hc : isBlank c = false) : c ∉ blank := by
  intro hmem
  rw [hblank c hmem] at hc
  cases hc

/-- White space behind a handle is no part of it. -/
theorem handle?_append_blank (text : List Char) : handle? (text ++ blank) = handle? text := by
  have hhead : ∀ c ∈ blank.head?, isHandleChar c = false := fun c hc =>
    isHandleChar_of_isBlank (hblank c (List.mem_of_mem_head? hc))
  have hrun : (text ++ blank).takeWhile isHandleChar = text.takeWhile isHandleChar := by
    have hnone : ([] ++ blank).takeWhile isHandleChar = [] :=
      takeWhile_append_of_head? (by simp) hhead
    have hsame : (text ++ blank).takeWhile isHandleChar = (text ++ []).takeWhile isHandleChar :=
      takeWhile_append_congr hnone rfl
    rwa [List.append_nil] at hsame
  have hstart : (text ++ blank).head?.any isWordChar = text.head?.any isWordChar := by
    cases text with
    | cons => rfl
    | nil =>
      rw [List.nil_append, List.head?_nil, Option.any_none, Option.any_eq_false]
      intro c hc
      have hnone := hhead c hc
      rw [isHandleChar, Bool.or_eq_false_iff, Bool.or_eq_false_iff] at hnone
      exact hnone.1.1
  rw [handle?_eq, handle?_eq, hstart, trimmedRun, hrun, trimmedRun]

/-- White space at the end of a line mentions nobody. -/
theorem occurrencesAfter_append_blank (reversed text : List Char) :
    occurrencesAfter reversed (text ++ blank) = occurrencesAfter reversed text := by
  induction text generalizing reversed with
  | nil =>
    have hnone := occurrencesAfter_append (not_mem_of_isBlank hblank (by decide)) reversed []
    rw [List.append_nil] at hnone
    exact hnone
  | cons c text ih =>
    rw [List.cons_append, occurrencesAfter, occurrencesAfter, ih, handle?_append_blank hblank]

/-- White space behind a line is kept when its inline spans are blanked. -/
theorem Blanks.append_blank (h : Blanks line seen) : Blanks (line ++ blank) (seen ++ blank) := by
  have htick : tick ∉ blank := not_mem_of_isBlank hblank (by decide)
  induction h with
  | plain hcount =>
    refine .plain ?_
    rw [List.count_append, List.count_eq_zero.2 htick]
    exact hcount
  | @span first code rest seen hfirst hcode _ ih =>
    have hspan := Blanks.span hfirst hcode ih
    simpa using hspan

/-- White space at the end of a line makes no fence, nor unmakes one. -/
theorem isFence_append_blank (text : List Char) : isFence (text ++ blank) = isFence text := by
  have hstarts (marker : Marker) : marker.Starts (text ++ blank) ↔ marker.Starts text := by
    constructor
    · rintro ⟨indent, rest, hindent, hline⟩
      rw [← List.append_assoc] at hline
      rcases List.append_eq_append_iff.1 hline with ⟨between, hstart, hend⟩ | ⟨between, htext, hend⟩
      · by_cases hbetween : between = []
        · subst hbetween
          exact ⟨indent, [], hindent, by simpa using hstart.symm⟩
        · -- The last character of the marker would be white space.
          have hlast := congrArg List.getLast? hstart
          rw [List.getLast?_append_of_ne_nil _ hbetween] at hlast
          have hmem : marker.char ∈ between := List.mem_of_getLast? (by rw [← hlast]; simp)
          have hnone : isBlank marker.char = false := by cases marker <;> decide
          refine absurd ?_ (not_mem_of_isBlank hblank hnone)
          rw [hend]
          exact List.mem_append_left _ hmem
      · exact ⟨indent, between, hindent, by rw [htext, List.append_assoc]⟩
    · rintro ⟨indent, rest, hindent, rfl⟩
      exact ⟨indent, rest ++ blank, hindent, by simp⟩
  rw [Bool.eq_iff_iff, isFence_iff, isFence_iff]
  exact exists_congr hstarts

end Blank

/-- **A line reads like the line without white space at its end.** -/
theorem readsAlike_trimEnd (line : List Char) : ReadsAlike (trimEnd line) line := by
  obtain ⟨blank, hline, hblank⟩ := exists_trimEnd_append line
  have hspans : blankSpans false line = blankSpans false (trimEnd line) ++ blank := by
    have hblanks := (blanks_blankSpans (trimEnd line)).append_blank hblank
    rw [← hline] at hblanks
    exact (blanks_iff.1 hblanks).symm
  constructor
  · have hfence := isFence_append_blank hblank (trimEnd line)
    rw [← hline] at hfence
    exact hfence.symm
  · have hsame := occurrencesAfter_append_blank hblank [] (trimEnd line)
    rw [← hline] at hsame
    exact hsame.symm
  · rw [hspans]
    exact (occurrencesAfter_append_blank hblank [] _).symm

/-! ### Boxes -/

section Lead

variable (hlead : IsLead lead)

include hlead

/-- An item starts with indents, digits and marks only. -/
theorem isDigit_or_mem_of_mem_lead (hc : c ∈ lead) :
    isDigit c ∨ c ∈ [' ', '\t', '-', '*', '+', '.', ')'] := by
  obtain ⟨indent, mark, gap, rfl, hindent, hmark, -, hgap⟩ := hlead
  have hspaces : [' ', '\t'] ⊆ [' ', '\t', '-', '*', '+', '.', ')'] := by decide
  have hbullets : ['-', '*', '+'] ⊆ [' ', '\t', '-', '*', '+', '.', ')'] := by decide
  have hends : ['.', ')'] ⊆ [' ', '\t', '-', '*', '+', '.', ')'] := by decide
  rcases List.mem_append.1 hc with hc | hc
  · exact .inr (hspaces (hindent c hc))
  · rcases List.mem_append.1 hc with hc | hc
    · cases hmark with
      | bullet hbullet =>
        obtain rfl := List.mem_singleton.1 hc
        exact .inr (hbullets hbullet)
      | number _ hdigits hend =>
        rcases List.mem_append.1 hc with hc | hc
        · exact .inl (hdigits c hc)
        · obtain rfl := List.mem_singleton.1 hc
          exact .inr (hends hend)
    · exact .inr (hspaces (hgap c hc))

/-- Nobody is mentioned in the lead of an item, and no code starts there. -/
theorem not_mem_lead : '@' ∉ lead ∧ tick ∉ lead := by
  constructor
  · intro hmem
    exact absurd (isDigit_or_mem_of_mem_lead hlead hmem) (by decide)
  · intro hmem
    exact absurd (isDigit_or_mem_of_mem_lead hlead hmem) (by decide)

/-- After spaces and tabs, an item starts with what opens neither a run nor a block. -/
theorem exists_dropWhile_lead (later : List Char) :
    ∃ c tail, (lead ++ later).dropWhile isIndent = c :: tail ∧ c ∉ ['@', tick, '~'] := by
  obtain ⟨indent, mark, gap, rfl, hindent, hmark, -, -⟩ := hlead
  obtain ⟨c, tail, rfl, hc⟩ := hmark.exists_cons
  have hindents : ∀ a ∈ indent, isIndent a := fun a ha => by simpa [isIndent] using hindent a ha
  have hfirst : isIndent c = false ∧ c ∉ ['@', tick, '~'] := by
    constructor
    · rw [Bool.eq_false_iff]
      intro hspace
      simp only [isIndent, Bool.or_eq_true, decide_eq_true_eq] at hspace
      rcases hspace with rfl | rfl <;> exact absurd hc (by decide)
    · intro hmem
      simp only [List.mem_cons, List.not_mem_nil, or_false] at hmem
      rcases hmem with rfl | rfl | rfl <;> exact absurd hc (by decide)
  refine ⟨c, tail ++ gap ++ later, ?_, hfirst.2⟩
  have hsplit : indent ++ (c :: tail ++ gap) ++ later = indent ++ c :: (tail ++ gap ++ later) := by
    simp
  rw [hsplit, dropWhile_append_of_head? hindents (by rintro _ ⟨⟩; exact hfirst.1)]

/-- No run of mentions reaches the box of an item. -/
theorem isOpening_lead (later : List Char) : isOpening (lead ++ later) = false := by
  obtain ⟨c, tail, hdrop, hc⟩ := exists_dropWhile_lead hlead later
  have hat : c ≠ '@' := fun h => hc (h ▸ List.mem_cons_self)
  rw [isOpening, hdrop]
  cases (lead ++ later).length <;> simp [isGroups, hat]

/-- An item is no fence. -/
theorem isFence_lead (later : List Char) : isFence (lead ++ later) = false := by
  obtain ⟨c, tail, hdrop, hc⟩ := exists_dropWhile_lead hlead later
  rw [Bool.eq_false_iff, Ne, isFence_iff]
  rintro ⟨marker, indent, rest, -, hline⟩
  have hspaces : ∀ a ∈ List.replicate indent ' ', isIndent a := fun a ha => by
    rw [List.eq_of_mem_replicate ha]
    rfl
  have hmarker : ∀ a ∈ (List.replicate 3 marker.char ++ rest).head?, isIndent a = false := by
    cases marker <;> (rintro _ ⟨⟩; decide)
  rw [hline, dropWhile_append_of_head? hspaces hmarker] at hdrop
  obtain ⟨rfl, -⟩ := List.cons.inj hdrop
  cases marker <;> exact hc (by decide)

end Lead

/-- Nobody is mentioned in the box of an item, and no code starts there. -/
theorem not_mem_box (hc : IsBox c) : '@' ∉ ['[', c, ']'] ∧ tick ∉ ['[', c, ']'] := by
  simp only [IsBox, List.mem_cons, List.not_mem_nil, or_false] at hc
  rcases hc with rfl | rfl | rfl <;> decide

/-- **What stands in a box changes no mention.** -/
theorem readsAlike_itemLine {d : Char} (hlead : IsLead lead) (hc : IsBox c) (hd : IsBox d)
    (rest : List Char) : ReadsAlike (itemLine lead c rest) (itemLine lead d rest) := by
  have hsplit (c : Char) (rest : List Char) :
      itemLine lead c rest = (lead ++ ['[', c, ']']) ++ rest := by
    simp [itemLine]
  have hat {c : Char} (hc : IsBox c) : '@' ∉ lead ++ ['[', c, ']'] := by
    rw [List.mem_append, not_or]
    exact ⟨(not_mem_lead hlead).1, (not_mem_box hc).1⟩
  have htick {c : Char} (hc : IsBox c) : tick ∉ lead ++ ['[', c, ']'] := by
    rw [List.mem_append, not_or]
    exact ⟨(not_mem_lead hlead).2, (not_mem_box hc).2⟩
  have hsame (rest : List Char) :
      occurrences (itemLine lead c rest) = occurrences (itemLine lead d rest) := by
    rw [occurrences, occurrences, hsplit, hsplit, occurrencesAfter_append (hat hc),
      occurrencesAfter_append (hat hd)]
    refine occurrencesAfter_congr (by simp) (fun later => ?_) rest
    simp only [List.append_nil, List.reverse_reverse, List.append_assoc, isOpening_lead hlead]
  constructor
  · rw [itemLine, itemLine, isFence_lead hlead, isFence_lead hlead]
  · exact hsame rest
  · rw [hsplit, hsplit, blankSpans_append (htick hc), blankSpans_append (htick hd), ← hsplit,
      ← hsplit]
    exact hsame _

/-- **A line reads like the line with its box unticked.** -/
theorem readsAlike_untick (line : List Char) : ReadsAlike (untick line) line := by
  rcases untick_cases line with ⟨lead, c, rest, hlead, hc, rfl, hu⟩ | ⟨_, hu⟩
  · rw [hu]
    exact readsAlike_itemLine hlead List.mem_cons_self hc rest
  · rw [hu]
    exact ⟨rfl, rfl, rfl⟩

/-- A line reads like what is settled of it. -/
theorem readsAlike_settled (line : List Char) : ReadsAlike (trimEnd (untick line)) line := by
  have htrim := readsAlike_trimEnd (untick line)
  have huntick := readsAlike_untick line
  exact ⟨htrim.fence.trans huntick.fence, htrim.written.trans huntick.written,
    htrim.blanked.trans huntick.blanked⟩

/-! ### Bodies -/

/-- Lines that read alike show the same mentions outside of code. -/
theorem flatMap_unfenced_map {f : List Char → List Char} (hf : ∀ line, ReadsAlike (f line) line)
    (fenced : Bool) (all : List (List Char)) :
    (unfenced fenced (all.map f)).flatMap occurrences =
      (unfenced fenced all).flatMap occurrences := by
  induction all generalizing fenced with
  | nil => rfl
  | cons line rest ih =>
    rw [List.map_cons, unfenced, unfenced, (hf line).fence]
    split
    · exact ih _
    · split
      · exact ih _
      · rw [List.flatMap_cons, List.flatMap_cons, (hf line).blanked, ih]

section Empty

variable {empty : List (List Char)} (hempty : ∀ line ∈ empty, line = [])

include hempty

/-- Empty lines mention nobody. -/
theorem flatMap_empty : empty.flatMap occurrences = [] := by
  rw [List.flatMap_eq_nil_iff]
  intro line hline
  rw [hempty line hline]
  rfl

/-- Empty lines at the end show no mention outside of code. -/
theorem flatMap_unfenced_append_empty (fenced : Bool) (all : List (List Char)) :
    (unfenced fenced (all ++ empty)).flatMap occurrences =
      (unfenced fenced all).flatMap occurrences := by
  induction all generalizing fenced with
  | nil =>
    have hshown : ∀ line ∈ unfenced fenced empty, line = [] := by
      intro line hline
      obtain ⟨shown, above, below, hall, -, -, hblanks⟩ := mem_unfenced.1 hline
      rw [blanks_iff.1 hblanks, hempty shown (by rw [hall]; simp)]
      rfl
    exact flatMap_empty hshown
  | cons line rest ih =>
    rw [List.cons_append, unfenced, unfenced]
    split
    · exact ih _
    · split
      · exact ih _
      · rw [List.flatMap_cons, List.flatMap_cons, ih]

end Empty

/-- **A body has the mentions of what is settled of it.** -/
theorem scan_eq_collect (ignoreCode : Bool) (text : String) :
    scan ignoreCode text = collect
      ((if ignoreCode then unfenced false (settled text.toList) else settled text.toList).flatMap
        occurrences) := by
  obtain ⟨empty, hall, hempty⟩ := exists_dropEmptyEnd_append
    ((lines text.toList).map fun line => trimEnd (untick line))
  rw [scan, proseLines]
  congr 1
  cases ignoreCode with
  | true =>
    calc (unfenced false (lines text.toList)).flatMap occurrences
      _ = (unfenced false (settled text.toList ++ empty)).flatMap occurrences := by
        rw [settled, ← hall, flatMap_unfenced_map readsAlike_settled]
      _ = (unfenced false (settled text.toList)).flatMap occurrences :=
        flatMap_unfenced_append_empty hempty _ _
  | false =>
    calc (lines text.toList).flatMap occurrences
      _ = (settled text.toList ++ empty).flatMap occurrences := by
        rw [settled, ← hall, List.flatMap_map]
        simp only [(readsAlike_settled _).written]
      _ = (settled text.toList).flatMap occurrences := by
        rw [List.flatMap_append, flatMap_empty hempty, List.append_nil]

/-- Bodies of which the same is settled have the same mentions. -/
theorem scan_congr {old new : String} (h : settled old.toList = settled new.toList)
    (ignoreCode : Bool) : scan ignoreCode old = scan ignoreCode new := by
  rw [scan_eq_collect, scan_eq_collect, h]

/-- **Ticking boxes changes no mention.** -/
theorem scan_eq_of_onlyStatesChanged {old new : String}
    (h : TaskList.onlyStatesChanged old new = true) (ignoreCode : Bool) :
    scan ignoreCode old = scan ignoreCode new := by
  rw [TaskList.onlyStatesChanged, beq_iff_eq] at h
  exact scan_congr h ignoreCode

/-- Boxes are ticked among fences, spans and a run that opens a line, and white space is dropped. -/
theorem scan_eq_of_onlyStatesChanged_ticked :
    TaskList.onlyStatesChanged "@a, @b:\n- [ ] @c\t\n ```\n1. [ ] @d\n ```\n* [X] `@e` @f\n \n"
      "@a, @b:\n- [x] @c\n ```\n1. [X] @d\n ```  \n* [ ] `@e` @f" = true ∧
    scan true "@a, @b:\n- [ ] @c\t\n ```\n1. [ ] @d\n ```\n* [X] `@e` @f\n \n" =
      scan true "@a, @b:\n- [x] @c\n ```\n1. [X] @d\n ```  \n* [ ] `@e` @f" ∧
    scan true "@a, @b:\n- [x] @c\n ```\n1. [X] @d\n ```  \n* [ ] `@e` @f" =
      ⟨["a", "b"], ["c", "f"]⟩ := by
  have h : TaskList.onlyStatesChanged
      "@a, @b:\n- [ ] @c\t\n ```\n1. [ ] @d\n ```\n* [X] `@e` @f\n \n"
      "@a, @b:\n- [x] @c\n ```\n1. [X] @d\n ```  \n* [ ] `@e` @f" = true := by
    decide +kernel
  exact ⟨h, scan_eq_of_onlyStatesChanged h true, by decide +kernel⟩

end TodoLedger.Mention
