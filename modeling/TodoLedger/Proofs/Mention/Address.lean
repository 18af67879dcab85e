import TodoLedger.Proofs.Mention.Recognition

/-!
# Who is addressed

A line that opens with mentions addresses their users.

* `OpensLine text handle`: the text names the handle where nothing but mentions and separators
  precede it in the line as it is written.
* **The addressed handles open a line** unless code is ignored and inline code precedes them
  (`addressed_open_iff`). Blanked code looks like an indent, so a mention that follows it is
  addressed although it opens no line (`addressed_behind_code`).
-/

namespace TodoLedger.Mention

open TodoLedger.Text

variable {ignoreCode : Bool} {text : List Char}

/-! ### Mentions that open a line -/

/-- The text consists of spaces, tabs, commas and mentions only. -/
def OnlyMentions (text : List Char) : Prop :=
  ∃ pieces, text = List.flatten pieces ∧ ∀ piece ∈ pieces,
    (∃ c, piece = [c] ∧ isSeparator c) ∨ ∃ handle, piece = '@' :: handle ∧ IsHandle handle

/-- A line of the text holds the handle after an `@`, and nothing but separators and mentions before
that. -/
def OpensLine (text handle : String) : Prop :=
  ∃ place : Place, place.IsIn text ∧ handle.toList <+: place.after ∧ OnlyMentions place.before

/-- Two texts of mentions and separators make one. -/
theorem OnlyMentions.append {first second : List Char} (hfirst : OnlyMentions first)
    (hsecond : OnlyMentions second) : OnlyMentions (first ++ second) := by
  obtain ⟨pieces, rfl, hpieces⟩ := hfirst
  obtain ⟨more, rfl, hmore⟩ := hsecond
  refine ⟨pieces ++ more, List.flatten_append.symm, fun piece hpiece => ?_⟩
  exact (List.mem_append.1 hpiece).elim (hpieces piece) (hmore piece)

/-- Separators alone are such a text. -/
theorem onlyMentions_of_separators (h : ∀ c ∈ text, isSeparator c) : OnlyMentions text := by
  refine ⟨text.map ([·]), by simp [List.flatten_eq_flatMap, List.flatMap_map], fun piece hpiece => ?_⟩
  obtain ⟨c, hc, rfl⟩ := List.mem_map.1 hpiece
  exact .inl ⟨c, rfl, h c hc⟩

/-- A group is such a text. -/
theorem onlyMentions_of_isGroup (h : IsGroup text) : OnlyMentions text := by
  obtain ⟨handle, separators, rfl, hhandle, hseparators⟩ := h
  have hmention : OnlyMentions ('@' :: handle) :=
    ⟨['@' :: handle], by simp, fun piece hpiece =>
      .inr ⟨handle, List.mem_singleton.1 hpiece, hhandle⟩⟩
  exact hmention.append (onlyMentions_of_separators hseparators)

/-- A run consists of mentions and separators. -/
theorem onlyMentions_of_isRun (h : IsRun text) : OnlyMentions text := by
  obtain ⟨indent, groups, rfl, hindent, hgroups⟩ := h
  have hseparators : ∀ c ∈ indent, isSeparator c := fun c hc => by
    have hc := hindent c hc
    simp only [isIndent, isSeparator, Bool.or_eq_true] at hc ⊢
    exact .inl hc
  refine (onlyMentions_of_separators hseparators).append ?_
  clear hindent hseparators
  induction groups with
  | nil => exact ⟨[], rfl, by simp⟩
  | cons group groups ih =>
    rw [List.forall_mem_cons] at hgroups
    exact (onlyMentions_of_isGroup hgroups.1).append (ih hgroups.2)

/-- No mention and no separator holds a backtick. -/
theorem OnlyMentions.not_mem_tick (h : OnlyMentions text) : tick ∉ text := by
  obtain ⟨pieces, rfl, hpieces⟩ := h
  intro hmem
  obtain ⟨piece, hpiece, hmem⟩ := List.mem_flatten.1 hmem
  obtain ⟨c, rfl, hc⟩ | ⟨handle, rfl, hhandle⟩ := hpieces piece hpiece
  · obtain rfl := List.mem_singleton.1 hmem
    exact absurd hc (by decide)
  · rcases List.mem_cons.1 hmem with htick | hmem
    · exact absurd htick (by decide)
    · exact absurd (hhandle.inner tick hmem) (by decide)

/-! ### Mentions behind code -/

/-- Inline code precedes the place in its line, and a run does once that code is blanked. -/
def Place.FollowsCode (place : Place) : Prop :=
  place.Counts ∧ tick ∈ place.before ∧ ∃ shown, Blanks place.before shown ∧ IsRun shown

/-- A text without backticks shows itself. -/
theorem Shows.eq_of_not_mem {before shown : List Char} (h : Shows ignoreCode before shown)
    (htick : tick ∉ before) : shown = before := by
  cases ignoreCode with
  | false => exact h
  | true =>
    rw [blanks_iff.1 h, blankSpans_of_count]
    rw [List.count_eq_zero.2 htick]
    omega

/-- **The addressed handles open a line**, unless code is ignored: then this is so exactly if it is
so of those that inline code precedes in their line. -/
theorem addressed_open_iff (ignoreCode : Bool) (text : String) :
    (∀ handle ∈ (scan ignoreCode text).addressed, OpensLine text handle) ↔
      (ignoreCode = true → ∀ place : Place, place.IsIn text → place.FollowsCode →
        ∀ handle, place.Mentions handle → OpensLine text handle) := by
  constructor
  · rintro hopen rfl place hin ⟨hcounts, -, shown, hshown, hrun⟩ handle hmentions
    exact hopen handle (mem_addressed_scan.2 ⟨place, hin, fun _ => hcounts, hmentions, shown,
      hshown, hrun⟩)
  · intro hfollows handle hfound
    obtain ⟨place, hin, hcounts, hmentions, shown, hshown, hrun⟩ := mem_addressed_scan.1 hfound
    have hopens (hbefore : shown = place.before) : OpensLine text handle := by
      refine ⟨place, hin, ?_, onlyMentions_of_isRun (hbefore ▸ hrun)⟩
      rw [hmentions.handle_eq]
      exact trimmedRun_prefix place.after
    cases ignoreCode with
    | false => exact hopens hshown
    | true =>
      by_cases htick : tick ∈ place.before
      · exact hfollows rfl place hin ⟨hcounts rfl, htick, shown, hshown, hrun⟩ handle hmentions
      · exact hopens (hshown.eq_of_not_mem htick)

/-- **Not every addressed handle opens a line**: alice is addressed after a piece of code. -/
theorem addressed_behind_code :
    ¬ ∀ (ignoreCode : Bool) (text : String), ∀ handle ∈ (scan ignoreCode text).addressed,
      OpensLine text handle := by
  intro h
  have haddressed : "alice" ∈ (scan true "`x` @alice").addressed := by decide +kernel
  obtain ⟨place, hin, -, hbefore⟩ := h true _ "alice" haddressed
  have hplace : place = ⟨[], "`x` ".toList, "alice".toList⟩ :=
    Place.eq_of_isIn hin [] (by decide +kernel) (by decide) (by decide) (by decide)
  rw [hplace] at hbefore
  exact hbefore.not_mem_tick (by decide)

end TodoLedger.Mention
