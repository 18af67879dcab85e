/-!
# Lines

A text is a sequence of lines, each ended by a line feed, which a carriage return may precede.
The last line may lack its end. `lines` gives the lines without their ends; a carriage return
that no line feed follows belongs to its line.
-/

namespace TodoLedger.Text

/-- The line whose characters so far, last first, are `reversed`, without the carriage return of
its end. -/
def endLine : List Char → List Char
  | '\r' :: reversed => reversed.reverse
  | reversed => reversed.reverse

/-- The lines of a text whose first line starts with the characters of `reversed`, last first. -/
def linesAfter (reversed : List Char) : List Char → List (List Char)
  | [] => if reversed.isEmpty then [] else [reversed.reverse]
  | c :: rest =>
    if c = '\n' then endLine reversed :: linesAfter [] rest
    else linesAfter (c :: reversed) rest

/-- The lines of a text, without their ends. -/
def lines (text : List Char) : List (List Char) := linesAfter [] text

/-- The end of a line adds no character. -/
theorem mem_of_mem_endLine {reversed : List Char} {c : Char} (h : c ∈ endLine reversed) :
    c ∈ reversed := by
  unfold endLine at h
  split at h <;> simp_all

/-- The characters of a line are those read before, or those of the text. -/
theorem mem_of_mem_linesAfter {reversed text line : List Char} {c : Char} (hc : c ∈ line)
    (hline : line ∈ linesAfter reversed text) : c ∈ reversed ∨ c ∈ text := by
  induction text generalizing reversed with
  | nil =>
    unfold linesAfter at hline
    split at hline
    · cases hline
    · obtain rfl := List.mem_singleton.1 hline
      exact .inl (List.mem_reverse.1 hc)
  | cons d rest ih =>
    unfold linesAfter at hline
    split at hline
    · rcases List.mem_cons.1 hline with rfl | hline
      · exact .inl (mem_of_mem_endLine hc)
      · exact .inr (List.mem_cons_of_mem _ ((ih hline).resolve_left List.not_mem_nil))
    · rw [List.mem_cons]
      rcases ih hline with hreversed | hrest
      · rcases List.mem_cons.1 hreversed with rfl | hreversed
        · exact .inr (.inl rfl)
        · exact .inl hreversed
      · exact .inr (.inr hrest)

/-- The characters of a line are characters of the text. -/
theorem mem_of_mem_lines {text line : List Char} {c : Char} (hc : c ∈ line)
    (hline : line ∈ lines text) : c ∈ text :=
  (mem_of_mem_linesAfter hc hline).resolve_left List.not_mem_nil

end TodoLedger.Text
