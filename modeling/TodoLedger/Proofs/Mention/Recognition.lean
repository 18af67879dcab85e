import TodoLedger.Mention.Scan
import TodoLedger.Proofs.Mention.Prose

/-!
# The mentions that are found

* **A text's handles are exactly those of the mentions in the lines that count**: addressed after a
  run that opens the line, mentioned elsewhere (`scan_recognises`).
* A `Place` is an `@` in a text as it is written. It counts if its line is no fence, an even number of
  fences precede the line, and no inline span is open there. The handles that are found are those
  named at a place, which counts if code is ignored (`mem_all_scan`, `mem_addressed_scan`).
* **Ignoring code only removes handles**, and changes nothing in a text without code
  (`ignoring_code_removes`).
-/

namespace TodoLedger

variable {handle : String}

namespace Mention

open TodoLedger.Text

variable {ignoreCode : Bool} {text : String}

/-! ### Mentions in the lines that count -/

/-- A line that counts shows a mention of the handle, after something with the property. -/
def ShownAfter (ignoreCode : Bool) (text handle : String) (p : List Char → Prop) : Prop :=
  ∃ seen before after, IsProse ignoreCode text.toList seen ∧ seen = before ++ '@' :: after ∧
    Names before after handle.toList ∧ p before

/-- The occurrences of a text are the mentions in the lines that count. -/
theorem exists_occurrence_iff {opening : Bool} :
    (∃ o ∈ (proseLines ignoreCode text.toList).flatMap occurrences,
      o.handle = handle ∧ o.opening = opening) ↔
        ShownAfter ignoreCode text handle fun before => opening = true ↔ IsRun before := by
  constructor
  · rintro ⟨o, ho, rfl, rfl⟩
    obtain ⟨seen, hseen, ho⟩ := List.mem_flatMap.1 ho
    obtain ⟨before, after, rfl, hnames, hopening⟩ := mem_occurrences.1 ho
    exact ⟨_, before, after, mem_proseLines.1 hseen, rfl, hnames, hopening⟩
  · rintro ⟨seen, before, after, hseen, rfl, hnames, hopening⟩
    refine ⟨⟨handle, opening⟩, List.mem_flatMap.2 ⟨_, mem_proseLines.2 hseen, ?_⟩, rfl, rfl⟩
    exact mem_occurrences.2 ⟨before, after, rfl, hnames, hopening⟩

/-- A set of handles holds those of the occurrences it is made of. -/
theorem mem_handles_iff {found : List Occurrence} {p : Occurrence → Bool} :
    handle ∈ ascending ((found.filter p).map (·.handle)) ↔
      ∃ o ∈ found, o.handle = handle ∧ p o = true := by
  simp only [mem_ascending, List.mem_map, List.mem_filter, and_assoc]
  exact exists_congr fun o => and_congr_right fun _ => and_comm

/-- A handle is addressed if a line shows it after a run. -/
theorem mem_addressed_iff :
    handle ∈ (scan ignoreCode text).addressed ↔ ShownAfter ignoreCode text handle IsRun := by
  rw [scan, collect, mem_handles_iff, exists_occurrence_iff]
  simp only [ShownAfter, true_iff]

/-- A handle is mentioned if a line shows it after something else. -/
theorem mem_mentioned_iff :
    handle ∈ (scan ignoreCode text).mentioned ↔
      ShownAfter ignoreCode text handle fun before => ¬ IsRun before := by
  rw [scan, collect, mem_handles_iff]
  simp only [Bool.not_eq_true', exists_occurrence_iff]
  simp only [ShownAfter, Bool.false_eq_true, false_iff]

/-- **A text's handles are exactly those of the mentions in the lines that count.** With code
ignored, these are the lines outside of blocks, with their inline spans blanked; otherwise they are
all lines. An `@` is a mention if a word character follows it and no alphanumeric character,
underscore, dot or `@` precedes it; its handle is the longest run of handle characters after it,
without the dots and hyphens at its end. The handle is addressed if the line starts with spaces and
tabs and then groups of mentions up to the `@`, and mentioned otherwise. -/
theorem scan_recognises (ignoreCode : Bool) (text handle : String) :
    (handle ∈ (scan ignoreCode text).addressed ↔
      ∃ seen before after, IsProse ignoreCode text.toList seen ∧ seen = before ++ '@' :: after ∧
        Names before after handle.toList ∧ IsRun before) ∧
    (handle ∈ (scan ignoreCode text).mentioned ↔
      ∃ seen before after, IsProse ignoreCode text.toList seen ∧ seen = before ++ '@' :: after ∧
        Names before after handle.toList ∧ ¬ IsRun before) :=
  ⟨mem_addressed_iff, mem_mentioned_iff⟩

example : scan true "@ada, @bob- see `@eve` and @fay" = ⟨["ada", "bob"], ["fay"]⟩ := by
  decide +kernel

/-! ### Mentions in the text as it is written -/

/-- An `@` in a text: the lines above it, and what stands before and after it in its line. -/
structure Place where
  above : List (List Char)
  before : List Char
  after : List Char

namespace Place

/-- The line in which the `@` stands. -/
def line (place : Place) : List Char := place.before ++ '@' :: place.after

/-- The place is one of the text. -/
def IsIn (place : Place) (text : String) : Prop :=
  ∃ below, lines text.toList = place.above ++ place.line :: below

/-- The `@` is a mention of the handle. -/
def Mentions (place : Place) (handle : String) : Prop :=
  Names place.before place.after handle.toList

/-- The place counts when code is ignored: its line is no fence, an even number of fences precede the
line, and no inline span is open at the `@`. -/
def Counts (place : Place) : Prop :=
  ¬ IsFence place.line ∧ Even (place.above.countP (IsFence ·)) ∧
    (Even (place.before.count tick) ∨ tick ∉ place.after)

/-- A text with a single `@` has a single place. -/
theorem eq_of_isIn {place : Place} {above : List (List Char)} {before after : List Char}
    (hin : place.IsIn text) (below : List (List Char))
    (hlines : lines text.toList = above ++ (before ++ '@' :: after) :: below)
    (hothers : ∀ line ∈ above ++ below, '@' ∉ line) (hbefore : '@' ∉ before)
    (hafter : '@' ∉ after) : place = ⟨above, before, after⟩ := by
  obtain ⟨later, hplace⟩ := hin
  have hline : place.line ∉ above ++ below := fun hmem =>
    hothers _ hmem (List.mem_append_right _ List.mem_cons_self)
  rw [List.mem_append, not_or] at hline
  rw [hlines] at hplace
  obtain ⟨habove, hsame, -⟩ := (List.append_cons_inj_of_notMem hline.1 hline.2).1 hplace
  obtain ⟨hsameBefore, -, hsameAfter⟩ := (List.append_cons_inj_of_notMem hbefore hafter).1 hsame
  rw [habove, hsameBefore, hsameAfter]

end Place

/-- Every line shows something. -/
theorem exists_shows (ignoreCode : Bool) (line : List Char) : ∃ seen, Shows ignoreCode line seen := by
  cases ignoreCode with
  | true => exact ⟨_, blanks_blankSpans line⟩
  | false => exact ⟨line, rfl⟩

/-- **The mentions that are shown are those of the text as it is written**, at the places that
count. -/
theorem shownAfter_iff {p : List Char → Prop} :
    ShownAfter ignoreCode text handle p ↔ ∃ place : Place, place.IsIn text ∧
      (ignoreCode = true → place.Counts) ∧ place.Mentions handle ∧
        ∃ shown, Shows ignoreCode place.before shown ∧ p shown := by
  constructor
  · rintro ⟨seen, before, after, ⟨line, above, below, hlines, hcounts, hshows⟩, rfl, hnames, hp⟩
    cases ignoreCode with
    | false =>
      obtain rfl : before ++ '@' :: after = line := hshows
      exact ⟨⟨above, before, after⟩, ⟨below, hlines⟩, (nomatch ·), hnames, before, rfl, hp⟩
    | true =>
      obtain ⟨shown, hidden, rfl, hbefore, hafter, hopen⟩ := Blanks.exists_split hshows rfl
      obtain ⟨hfence, heven⟩ := hcounts rfl
      exact ⟨⟨above, shown, hidden⟩, ⟨below, hlines⟩, fun _ => ⟨hfence, heven, hopen⟩,
        (hbefore.names_iff hafter).1 hnames, before, hbefore, hp⟩
  · rintro ⟨⟨above, before, after⟩, ⟨below, hlines⟩, hcounts, hnames, shown, hshows, hp⟩
    cases ignoreCode with
    | false =>
      obtain rfl : shown = before := hshows
      exact ⟨_, shown, after, ⟨_, above, below, hlines, (nomatch ·), rfl⟩, rfl, hnames, hp⟩
    | true =>
      obtain ⟨hfence, heven, hopen⟩ := hcounts rfl
      have hafter := blanks_blankSpans after
      exact ⟨_, shown, blankSpans false after, ⟨_, above, below, hlines, fun _ => ⟨hfence, heven⟩,
        Blanks.append_cons hshows hafter hopen⟩, rfl, (Blanks.names_iff hshows hafter).2 hnames, hp⟩

/-- The handles that are addressed, at the places of the text. -/
theorem mem_addressed_scan :
    handle ∈ (scan ignoreCode text).addressed ↔ ∃ place : Place, place.IsIn text ∧
      (ignoreCode = true → place.Counts) ∧ place.Mentions handle ∧
        ∃ shown, Shows ignoreCode place.before shown ∧ IsRun shown := by
  rw [mem_addressed_iff, shownAfter_iff]

/-- **The handles that are found are those mentioned at a place that counts.** -/
theorem mem_all_scan :
    handle ∈ (scan ignoreCode text).all ↔ ∃ place : Place, place.IsIn text ∧
      (ignoreCode = true → place.Counts) ∧ place.Mentions handle := by
  rw [Mentions.mem_all, mem_addressed_iff, mem_mentioned_iff, shownAfter_iff, shownAfter_iff]
  constructor
  · rintro (⟨place, hin, hcounts, hmentions, -⟩ | ⟨place, hin, hcounts, hmentions, -⟩)
    · exact ⟨place, hin, hcounts, hmentions⟩
    · exact ⟨place, hin, hcounts, hmentions⟩
  · rintro ⟨place, hin, hcounts, hmentions⟩
    obtain ⟨shown, hshown⟩ := exists_shows ignoreCode place.before
    by_cases hrun : IsRun shown
    · exact .inl ⟨place, hin, hcounts, hmentions, shown, hshown, hrun⟩
    · exact .inr ⟨place, hin, hcounts, hmentions, shown, hshown, hrun⟩

/-! ### Ignoring code -/

/-- Lines without backticks that are no fences stay as they are. -/
theorem unfenced_of_plain {all : List (List Char)}
    (h : ∀ line ∈ all, tick ∉ line ∧ ¬ IsFence line) : unfenced false all = all := by
  induction all with
  | nil => rfl
  | cons line rest ih =>
    rw [List.forall_mem_cons] at h
    obtain ⟨⟨htick, hfence⟩, hrest⟩ := h
    have hplain : blankSpans false line = line :=
      blankSpans_of_count (by rw [List.count_eq_zero.2 htick]; omega)
    rw [unfenced, if_neg (mt isFence_iff.1 hfence), if_neg Bool.false_ne_true, hplain, ih hrest]

/-- A fence without backticks is one of tildes. -/
theorem starts_tildes_of_isFence {line : List Char} (htick : tick ∉ line) (h : IsFence line) :
    Marker.tildes.Starts line := by
  obtain ⟨_ | _, indent, rest, hindent, rfl⟩ := h
  · exact absurd (by simp [Marker.char, List.replicate_succ]) htick
  · exact ⟨indent, rest, hindent, rfl⟩

/-- **Ignoring code only removes handles**: what is found then is found with code as well. In a text
without backticks and without fences of tildes it makes no difference at all. -/
theorem ignoring_code_removes (text : String) :
    (∀ handle ∈ (scan true text).all, handle ∈ (scan false text).all) ∧
    (tick ∉ text.toList ∧ (∀ line ∈ lines text.toList, ¬ Marker.tildes.Starts line) →
      scan true text = scan false text) := by
  refine ⟨fun handle hfound => ?_, fun ⟨htick, htildes⟩ => ?_⟩
  · obtain ⟨place, hin, -, hmentions⟩ := mem_all_scan.1 hfound
    exact mem_all_scan.2 ⟨place, hin, (nomatch ·), hmentions⟩
  · have hplain : ∀ line ∈ lines text.toList, tick ∉ line ∧ ¬ IsFence line := fun line hline => by
      have hnone : tick ∉ line := fun hmem => htick (mem_of_mem_lines hmem hline)
      exact ⟨hnone, fun hfence => htildes line hline (starts_tildes_of_isFence hnone hfence)⟩
    have hsame : proseLines true text.toList = proseLines false text.toList :=
      unfenced_of_plain hplain
    rw [scan, scan, hsame]

/-- A text in which tildes stand within a line only. -/
theorem ignoring_code_removes_tildes :
    (tick ∉ "@ada, see 1~~~2\n@bob".toList ∧
      ∀ line ∈ lines "@ada, see 1~~~2\n@bob".toList, ¬ Marker.tildes.Starts line) ∧
    scan true "@ada, see 1~~~2\n@bob" = scan false "@ada, see 1~~~2\n@bob" := by
  have hplain : tick ∉ "@ada, see 1~~~2\n@bob".toList ∧
      ∀ line ∈ lines "@ada, see 1~~~2\n@bob".toList, ¬ Marker.tildes.Starts line := by
    decide +kernel
  exact ⟨hplain, (ignoring_code_removes _).2 hplain⟩

end Mention

end TodoLedger
