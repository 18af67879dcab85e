import Mathlib.Data.List.DropRight
import TodoLedger.Text.Blank
import TodoLedger.Text.Line

/-!
# Runs of characters at the ends of a text

* What a predicate takes or drops from the start of a text ends where it fails
  (`takeWhile_append_of_head?`, `dropWhile_append_of_head?`).
* `trimEnd` drops white space from the end (`trimEnd_eq`), and a text between other characters is not
  trimmed (`trimEnd_append`).
* **The lines of a text are what its line feeds separate**, up to white space at their ends and empty
  lines at the end of the text (`rdropWhile_trimEnd_lines`).
-/

namespace TodoLedger.Text

variable {p : Char → Bool} {c : Char} {text rest : List Char}

/-! ### At the start -/

/-- The run that a predicate takes ends where it fails. -/
theorem takeWhile_append_of_head? (h : ∀ c ∈ text, p c) (hrest : ∀ c ∈ rest.head?, p c = false) :
    (text ++ rest).takeWhile p = text := by
  rw [List.takeWhile_append_of_pos h]
  cases rest with
  | nil => simp
  | cons c rest => simp [hrest c rfl]

/-- What a predicate drops from the start, up to where it fails. -/
theorem dropWhile_append_of_head? (h : ∀ c ∈ text, p c) (hrest : ∀ c ∈ rest.head?, p c = false) :
    (text ++ rest).dropWhile p = rest := by
  rw [List.dropWhile_append_of_pos h]
  cases rest with
  | nil => rfl
  | cons c rest => simp [hrest c rfl]

/-! ### At the end -/

/-- Dropping from the end, one member at a time. -/
theorem rdropWhile_cons {α : Type} (p : α → Bool) (a : α) (rest : List α) :
    (a :: rest).rdropWhile p =
      if rest.rdropWhile p = [] then if p a then [] else [a] else a :: rest.rdropWhile p := by
  simp only [List.rdropWhile, List.reverse_cons, List.dropWhile_append, List.isEmpty_iff,
    List.reverse_eq_nil_iff]
  split
  · cases ha : p a <;> simp [ha]
  · simp

/-- `trimEnd` drops white space from the end. -/
theorem trimEnd_eq (text : List Char) : trimEnd text = text.rdropWhile isBlank := by
  induction text with
  | nil => rfl
  | cons c rest ih =>
    rw [rdropWhile_cons, ← ih, trimEnd]
    cases trimEnd rest <;> simp

/-- What stands before a character that is no white space is not trimmed. -/
theorem trimEnd_append (hc : isBlank c = false) (text rest : List Char) :
    trimEnd (text ++ c :: rest) = text ++ c :: trimEnd rest := by
  have hne (kept : List Char) : kept ++ c :: trimEnd rest ≠ [] :=
    List.append_ne_nil_of_right_ne_nil _ (List.cons_ne_nil _ _)
  have hlast : trimEnd (c :: rest) = c :: trimEnd rest := by
    rw [trimEnd]
    cases trimEnd rest <;> simp [hc]
  induction text with
  | nil => exact hlast
  | cons d text ih =>
    rw [List.cons_append, trimEnd_eq, rdropWhile_cons, ← trimEnd_eq, ih, if_neg (hne text)]
    rfl

/-! ### Lines -/

/-- A line end leaves nothing that trimming keeps. -/
theorem trimEnd_endLine (reversed : List Char) :
    trimEnd (endLine reversed) = trimEnd reversed.reverse := by
  unfold endLine
  split
  · rw [List.reverse_cons, trimEnd_eq, trimEnd_eq, List.rdropWhile_concat_pos]
    decide
  · rfl

/-- The lines after what was read are what the line feeds separate, up to what trimming takes off.
-/
theorem rdropWhile_trimEnd_linesAfter (reversed text : List Char) :
    ((linesAfter reversed text).map trimEnd).rdropWhile List.isEmpty =
      ((List.splitOnPPrepend (· == '\n') text reversed).map trimEnd).rdropWhile List.isEmpty := by
  induction text generalizing reversed with
  | nil =>
    rw [List.splitOnPPrepend_nil, linesAfter]
    cases reversed with
    | nil => rfl
    | cons => rfl
  | cons c rest ih =>
    rw [List.splitOnPPrepend_cons_eq_if, linesAfter]
    by_cases hc : c = '\n'
    · rw [if_pos hc, if_pos (beq_iff_eq.2 hc), List.map_cons, List.map_cons, rdropWhile_cons,
        rdropWhile_cons, ih, trimEnd_endLine]
      rfl
    · rw [if_neg hc, if_neg (mt beq_iff_eq.1 hc)]
      exact ih _

/-- **The lines of a text are what its line feeds separate**, up to white space at the ends of lines
and empty lines at the end. -/
theorem rdropWhile_trimEnd_lines (text : List Char) :
    ((lines text).map trimEnd).rdropWhile List.isEmpty =
      ((text.splitOn '\n').map trimEnd).rdropWhile List.isEmpty :=
  rdropWhile_trimEnd_linesAfter [] text

end TodoLedger.Text
