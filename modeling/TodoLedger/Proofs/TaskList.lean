import Mathlib.Data.List.Forall2
import TodoLedger.Proofs.Text.Runs
import TodoLedger.TaskList

/-!
# What ticking boxes changes

* A task-list item is a lead, a checkbox, and any text (`IsLead`, `ofLine?_eq_some_iff`): the lead is
  an indent, a bullet or a number, and a gap.
* Unticking forgets what stands in the checkbox of a line, and nothing else (`untick_eq_iff`).
* **Two bodies are the same but for their checkboxes exactly if they have the same number of lines,
  and each line is the same in both, or an item that differs in its checkbox only**
  (`onlyStatesChanged_iff`). White space at the ends of lines and empty lines at the end of a body do
  not count.
-/

namespace TodoLedger.TaskList

open TodoLedger.Text

variable {line mark lead rest : List Char} {c d : Char}

/-! ### The grammar of items -/

/-- A bullet, or decimal digits with a `.` or a `)`. -/
inductive IsMarker : List Char → Prop where
  | bullet {c : Char} : c ∈ ['-', '*', '+'] → IsMarker [c]
  | number {digits : List Char} {d : Char} : digits ≠ [] → (∀ c ∈ digits, isDigit c) →
      d ∈ ['.', ')'] → IsMarker (digits ++ [d])

/-- What precedes the checkbox of an item: any spaces and tabs, a marker, and at least one space or
tab. -/
def IsLead (lead : List Char) : Prop :=
  ∃ indent mark gap, lead = indent ++ (mark ++ gap) ∧ (∀ c ∈ indent, c ∈ [' ', '\t']) ∧
    IsMarker mark ∧ gap ≠ [] ∧ ∀ c ∈ gap, c ∈ [' ', '\t']

/-- The line of an item. -/
def itemLine (lead : List Char) (c : Char) (rest : List Char) : List Char :=
  lead ++ '[' :: c :: ']' :: rest

/-- What may stand in a checkbox. -/
def IsBox (c : Char) : Prop := c ∈ [' ', 'x', 'X']

/-- The gaps are spaces and tabs. -/
theorem isGap_iff : isGap c = true ↔ c ∈ [' ', '\t'] := by
  simp [isGap]

/-- What a box may hold is recognised. -/
theorem isBox_iff : isBox c = true ↔ IsBox c := by
  simp [isBox, IsBox, or_assoc]

/-- The first character of a marker is a bullet or a digit. -/
theorem IsMarker.exists_cons (h : IsMarker mark) :
    ∃ c tail, mark = c :: tail ∧ (c ∈ ['-', '*', '+'] ∨ isDigit c) := by
  cases h with
  | bullet hc => exact ⟨_, [], rfl, .inl hc⟩
  | @number digits d hne hdigits =>
    cases digits with
    | nil => exact absurd rfl hne
    | cons c digits => exact ⟨c, digits ++ [d], rfl, .inr (hdigits c List.mem_cons_self)⟩

/-- A marker is found at the start of what follows it. -/
theorem marker?_of_isMarker (h : IsMarker mark) (rest : List Char) :
    marker? (mark ++ rest) = some (mark, rest) := by
  cases h with
  | @bullet c hc =>
    have hbullet : (c = '-' || c = '*' || c = '+') = true := by simpa [or_assoc] using hc
    rw [List.singleton_append, marker?, if_pos hbullet]
  | @number digits d hne hdigits hd =>
    have hstop : ∀ c ∈ (d :: rest).head?, isDigit c = false := by
      rintro _ ⟨⟩
      simp only [List.mem_cons, List.not_mem_nil, or_false] at hd
      rcases hd with rfl | rfl <;> decide
    have htake := takeWhile_append_of_head? hdigits hstop
    have hdrop := dropWhile_append_of_head? hdigits hstop
    have hend : (d = '.' || d = ')') = true := by simpa using hd
    rw [List.append_assoc, List.singleton_append]
    cases digits with
    | nil => exact absurd rfl hne
    | cons c digits =>
      have hfirst := hdigits c List.mem_cons_self
      have hbullet : ¬ (c = '-' || c = '*' || c = '+') = true := fun hbullet => by
        simp only [Bool.or_eq_true, decide_eq_true_eq] at hbullet
        rcases hbullet with (rfl | rfl) | rfl <;> exact absurd hfirst (by decide)
      rw [List.cons_append] at htake hdrop ⊢
      rw [marker?, if_neg hbullet, htake, hdrop]
      simp [hend]

/-- What is found is a marker, and the line starts with it. -/
theorem isMarker_of_marker? (h : marker? line = some (mark, rest)) :
    IsMarker mark ∧ line = mark ++ rest := by
  cases line with
  | nil => cases h
  | cons c tail =>
    rw [marker?] at h
    split at h
    · next hc =>
      cases h
      exact ⟨.bullet (by simpa [or_assoc] using hc), rfl⟩
    · split at h
      · cases h
      · cases h
      · next d rest' hdrop hne =>
        split at h
        · next hd =>
          cases h
          have hsplit := List.takeWhile_append_dropWhile (p := isDigit) (l := c :: tail)
          refine ⟨.number hne (fun c hc => List.mem_takeWhile_imp hc) (by simpa using hd), ?_⟩
          rw [List.append_assoc, List.singleton_append, ← hdrop, hsplit]
        · cases h

/-- A line that is written as an item is read as that item. -/
theorem ofLine?_itemLine (hlead : IsLead lead) (hc : IsBox c) (rest : List Char) :
    Item.ofLine? (itemLine lead c rest) = some ⟨lead, c, rest⟩ := by
  obtain ⟨indent, mark, gap, rfl, hindent, hmark, hgap, hgaps⟩ := hlead
  have hline : itemLine (indent ++ (mark ++ gap)) c rest =
      indent ++ (mark ++ (gap ++ '[' :: c :: ']' :: rest)) := by
    simp [itemLine]
  have hindents : ∀ c ∈ indent, isGap c := fun c hc => isGap_iff.2 (hindent c hc)
  have hstart : ∀ a ∈ (mark ++ (gap ++ '[' :: c :: ']' :: rest)).head?, isGap a = false := by
    obtain ⟨first, tail, rfl, hfirst⟩ := hmark.exists_cons
    rintro _ ⟨⟩
    rw [Bool.eq_false_iff, Ne, isGap_iff]
    intro hmem
    simp only [List.mem_cons, List.not_mem_nil, or_false] at hmem
    rcases hmem with rfl | rfl <;> exact absurd hfirst (by decide)
  have hgaps : ∀ c ∈ gap, isGap c := fun c hc => isGap_iff.2 (hgaps c hc)
  have hbracket : ∀ a ∈ ('[' :: c :: ']' :: rest).head?, isGap a = false := by
    rintro _ ⟨⟩
    decide
  have hgapTake := takeWhile_append_of_head? hgaps hbracket
  have hgapDrop := dropWhile_append_of_head? hgaps hbracket
  rw [hline, Item.ofLine?, dropWhile_append_of_head? hindents hstart, marker?_of_isMarker hmark,
    takeWhile_append_of_head? hindents hstart]
  cases gap with
  | nil => exact absurd rfl hgap
  | cons g gap => simp only [hgapTake, hgapDrop, isBox_iff.2 hc, if_true, List.append_assoc]

/-- What is read as an item is written as one. -/
theorem eq_itemLine_of_ofLine? {item : Item} (h : Item.ofLine? line = some item) :
    IsLead item.lead ∧ IsBox item.box ∧ line = itemLine item.lead item.box item.rest := by
  rw [Item.ofLine?] at h
  split at h
  · cases h
  · next mark afterMark hmark =>
    split at h
    · next g gap c rest htake hdrop =>
      split at h
      · next hbox =>
        cases h
        obtain ⟨hmarker, hline⟩ := isMarker_of_marker? hmark
        have hindent : ∀ c ∈ line.takeWhile isGap, c ∈ [' ', '\t'] := fun c hc =>
          isGap_iff.1 (List.mem_takeWhile_imp hc)
        have hgap : ∀ c ∈ g :: gap, c ∈ [' ', '\t'] := fun c hc =>
          isGap_iff.1 (List.mem_takeWhile_imp (htake ▸ hc))
        refine ⟨⟨line.takeWhile isGap, mark, g :: gap, by simp, hindent, hmarker, by simp, hgap⟩,
          isBox_iff.1 hbox, ?_⟩
        calc line = line.takeWhile isGap ++ line.dropWhile isGap :=
              List.takeWhile_append_dropWhile.symm
          _ = line.takeWhile isGap ++ (mark ++ (afterMark.takeWhile isGap ++
                afterMark.dropWhile isGap)) := by
              rw [hline, List.takeWhile_append_dropWhile]
          _ = itemLine (line.takeWhile isGap ++ mark ++ g :: gap) c rest := by
              rw [htake, hdrop, itemLine]
              simp
      · cases h
    · cases h

/-- **The lines of items are those with a lead and a checkbox**, and are read in one way. -/
theorem ofLine?_eq_some_iff {item : Item} : Item.ofLine? line = some item ↔
    IsLead item.lead ∧ IsBox item.box ∧ line = itemLine item.lead item.box item.rest := by
  constructor
  · exact eq_itemLine_of_ofLine?
  · rintro ⟨hlead, hbox, rfl⟩
    exact ofLine?_itemLine hlead hbox item.rest

/-! ### Unticking -/

/-- The lines are the same, or those of an item that differs in its checkbox. -/
def SameButBox (old new : List Char) : Prop :=
  old = new ∨ ∃ lead c d rest, IsLead lead ∧ IsBox c ∧ IsBox d ∧ old = itemLine lead c rest ∧
    new = itemLine lead d rest

/-- A line has a checkbox, which is unticked, or it stays as it is. -/
theorem untick_cases (line : List Char) :
    (∃ lead c rest, IsLead lead ∧ IsBox c ∧ line = itemLine lead c rest ∧
      untick line = itemLine lead ' ' rest) ∨
    Item.ofLine? line = none ∧ untick line = line := by
  rw [untick]
  cases hitem : Item.ofLine? line with
  | none => exact .inr ⟨rfl, rfl⟩
  | some item =>
    obtain ⟨hlead, hbox, hline⟩ := ofLine?_eq_some_iff.1 hitem
    exact .inl ⟨item.lead, item.box, item.rest, hlead, hbox, hline, rfl⟩

/-- Unticking an item puts a space into its checkbox. -/
theorem untick_itemLine (hlead : IsLead lead) (hc : IsBox c) (rest : List Char) :
    untick (itemLine lead c rest) = itemLine lead ' ' rest := by
  rw [untick, ofLine?_itemLine hlead hc]
  rfl

/-- An item has one lead and one text. -/
theorem itemLine_inj {lead' rest' : List Char} (hlead : IsLead lead) (hlead' : IsLead lead')
    (hc : IsBox c) (h : itemLine lead c rest = itemLine lead' c rest') :
    lead = lead' ∧ rest = rest' := by
  have hread := ofLine?_itemLine hlead hc rest
  rw [h, ofLine?_itemLine hlead' hc, Option.some.injEq, Item.mk.injEq] at hread
  exact ⟨hread.1.symm, hread.2.2.symm⟩

/-- **Unticking forgets what stands in a checkbox, and nothing else.** -/
theorem untick_eq_iff {old new : List Char} : untick old = untick new ↔ SameButBox old new := by
  have hspace : IsBox ' ' := List.mem_cons_self
  constructor
  · intro h
    rcases untick_cases old with ⟨lead, c, rest, hlead, hc, hold, hu⟩ | ⟨hnone, hu⟩
    · rcases untick_cases new with ⟨lead', d, rest', hlead', hd, hnew, hv⟩ | ⟨hnone, hv⟩
      · rw [hu, hv] at h
        obtain ⟨rfl, rfl⟩ := itemLine_inj hlead hlead' hspace h
        exact .inr ⟨lead, c, d, rest, hlead, hc, hd, hold, hnew⟩
      · rw [hu, hv] at h
        rw [← h, ofLine?_itemLine hlead hspace] at hnone
        cases hnone
    · rcases untick_cases new with ⟨lead', d, rest', hlead', _, _, hv⟩ | ⟨_, hv⟩
      · rw [hu, hv] at h
        rw [h, ofLine?_itemLine hlead' hspace] at hnone
        cases hnone
      · rw [hu, hv] at h
        exact .inl h
  · rintro (rfl | ⟨lead, c, d, rest, hlead, hc, hd, rfl, rfl⟩)
    · rfl
    · rw [untick_itemLine hlead hc, untick_itemLine hlead hd]

/-! ### Trimming -/

/-- What is trimmed from the line of an item is trimmed from its text. -/
theorem trimEnd_itemLine (lead : List Char) (c : Char) (rest : List Char) :
    trimEnd (itemLine lead c rest) = itemLine lead c (trimEnd rest) := by
  have hsplit (rest : List Char) : itemLine lead c rest = (lead ++ ['[', c]) ++ ']' :: rest := by
    simp [itemLine]
  rw [hsplit, hsplit, trimEnd_append (by decide)]

/-- It does not matter whether a line is unticked or trimmed first. -/
theorem trimEnd_untick (line : List Char) : trimEnd (untick line) = untick (trimEnd line) := by
  rcases untick_cases line with ⟨lead, c, rest, hlead, hc, rfl, hu⟩ | ⟨hnone, hu⟩
  · rw [hu, trimEnd_itemLine, trimEnd_itemLine, untick_itemLine hlead hc]
  · rw [hu]
    rcases untick_cases (trimEnd line) with ⟨lead, c, rest, hlead, hc, htrimmed, _⟩ | ⟨_, hv⟩
    · -- A line that starts like an item is one.
      obtain ⟨blank, hline, _⟩ := exists_trimEnd_append line
      have hitem : line = itemLine lead c (rest ++ blank) := by
        rw [hline, htrimmed]
        simp [itemLine]
      rw [hitem, ofLine?_itemLine hlead hc] at hnone
      cases hnone
    · exact hv.symm

/-- Unticking empties no line. -/
theorem isEmpty_untick (line : List Char) : (untick line).isEmpty = line.isEmpty := by
  have hitem (lead : List Char) (c : Char) (rest : List Char) :
      (itemLine lead c rest).isEmpty = false := by
    cases lead <;> rfl
  rcases untick_cases line with ⟨lead, c, rest, _, _, rfl, hu⟩ | ⟨_, hu⟩
  · rw [hu, hitem, hitem]
  · rw [hu]

/-! ### Bodies -/

/-- The lines of a body, without white space at their ends and without empty lines at its end. The
carriage return that may precede a line feed is white space at the end of a line. -/
def bodyLines (text : List Char) : List (List Char) :=
  ((text.splitOn '\n').map (·.rdropWhile isBlank)).rdropWhile List.isEmpty

/-- Dropping the empty lines at the end is taking off the longest run of them. -/
theorem dropEmptyEnd_eq (lines : List (List Char)) :
    dropEmptyEnd lines = lines.rdropWhile List.isEmpty := by
  induction lines with
  | nil => rfl
  | cons line rest ih =>
    rw [rdropWhile_cons, ← ih, dropEmptyEnd]
    cases dropEmptyEnd rest <;> simp

/-- What is dropped from the end are empty lines. -/
theorem exists_dropEmptyEnd_append (all : List (List Char)) :
    ∃ empty, all = dropEmptyEnd all ++ empty ∧ ∀ line ∈ empty, line = [] := by
  refine ⟨all.rtakeWhile List.isEmpty, ?_, fun line hline => ?_⟩
  · rw [dropEmptyEnd_eq, List.rdropWhile_append_rtakeWhile]
  · exact List.isEmpty_iff.1 (List.mem_rtakeWhile_imp hline)

/-- What is settled of a body are its lines with every box unticked. -/
theorem settled_eq (text : List Char) : settled text = (bodyLines text).map untick := by
  have htrim : trimEnd = fun line => line.rdropWhile isBlank := funext trimEnd_eq
  have hempty : List.isEmpty ∘ untick = List.isEmpty := funext isEmpty_untick
  have hline : (fun line => trimEnd (untick line)) = untick ∘ trimEnd := funext trimEnd_untick
  have hbody : bodyLines text = ((lines text).map trimEnd).rdropWhile List.isEmpty := by
    rw [rdropWhile_trimEnd_lines, bodyLines, htrim]
  rw [hbody, settled, dropEmptyEnd_eq, hline, ← List.map_map]
  simp only [List.rdropWhile, ← List.map_reverse, List.dropWhile_map, hempty]

/-- **Only states changed exactly if each line is the same or differs in its checkbox.** -/
theorem onlyStatesChanged_iff (old new : String) : onlyStatesChanged old new = true ↔
    List.Forall₂ SameButBox (bodyLines old.toList) (bodyLines new.toList) := by
  have hlines (a b : List (List Char)) :
      a.map untick = b.map untick ↔ List.Forall₂ SameButBox a b := by
    rw [← List.forall₂_eq_eq_eq, List.forall₂_map_left_iff, List.forall₂_map_right_iff]
    simp only [untick_eq_iff]
  rw [onlyStatesChanged, beq_iff_eq, settled_eq, settled_eq, hlines]

example : onlyStatesChanged "- [ ] one\r\n 2) [X] two" "- [x] one\n 2) [ ] two \n\n" = true := by
  decide +kernel

example : onlyStatesChanged "see [ ] here" "see [x] here" = false := by decide +kernel

end TodoLedger.TaskList
