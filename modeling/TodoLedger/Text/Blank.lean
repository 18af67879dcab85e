import TodoLedger.Text.Range

/-!
# White space

`isBlank` holds of the white-space characters of Unicode, and `trimEnd` drops them from the end
of a text.
-/

namespace TodoLedger.Text

/-- Code points of white space, ascending. -/
def blankRanges : List Range := [
    (0x9, 0xD), (0x20, 0x20), (0x85, 0x85), (0xA0, 0xA0), (0x1680, 0x1680),
    (0x2000, 0x200A), (0x2028, 0x2029), (0x202F, 0x202F), (0x205F, 0x205F), (0x3000, 0x3000)]

/-- True of white space of every kind: spaces, tabs, line and page ends. -/
def isBlank (c : Char) : Bool := Range.cover blankRanges c

/-- The text without the white space at its end. -/
def trimEnd : List Char → List Char
  | [] => []
  | c :: rest =>
    match trimEnd rest with
    | [] => if isBlank c then [] else [c]
    | kept => c :: kept

/-- The text without the white space at its start. -/
def trimStart (text : List Char) : List Char := text.dropWhile isBlank



/-- What is dropped is white space only. -/
theorem exists_trimEnd_append (text : List Char) :
    ∃ blank, text = trimEnd text ++ blank ∧ ∀ c ∈ blank, isBlank c := by
  induction text with
  | nil => exact ⟨[], rfl, by simp⟩
  | cons c rest ih =>
    obtain ⟨blank, hrest, hblank⟩ := ih
    by_cases hnil : trimEnd rest = []
    · by_cases hc : isBlank c
      · refine ⟨c :: blank, ?_, ?_⟩
        · simp [trimEnd, hnil, hc] at hrest ⊢
          exact hrest
        · simpa [hc] using hblank
      · refine ⟨blank, ?_, hblank⟩
        simp [trimEnd, hnil, hc] at hrest ⊢
        exact hrest
    · refine ⟨blank, ?_, hblank⟩
      have : trimEnd (c :: rest) = c :: trimEnd rest := by
        cases h : trimEnd rest with
        | nil => exact absurd h hnil
        | cons d kept => simp [trimEnd, h]
      rw [this, List.cons_append, ← hrest]

end TodoLedger.Text
