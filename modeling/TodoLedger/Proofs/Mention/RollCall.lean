import Mathlib.Data.List.Nodup
import Mathlib.Data.List.Perm.Subperm
import Mathlib.Data.List.ProdSigma
import TodoLedger.Proofs.Mention.Recognition
import TodoLedger.Proofs.Mention.Settling

/-!
# Texts that consist of handles

Each line of such a text is an `@` and a handle.

* What any text mentions has the shape of a handle (`isHandle_of_mem_scan`).
* **The handles that are the lines of a text are addressed, and nothing else is mentioned**
  (`scan_of_lines`), so a handle after an `@` is found as it is (`scan_reference`).
* `rollCall handles` has a line for each of the handles. **If they are different, as many handles
  are found** (`length_le_scan_rollCall`). There can be many, such as all words of three letters
  (`threeLetterWords`).
-/

namespace TodoLedger.Mention

open TodoLedger.Text

variable {c : Char} {text line rest reversed : List Char}

/-- **What a text mentions has the shape of a handle.** -/
theorem isHandle_of_mem_scan {ignoreCode : Bool} {text handle : String}
    (h : handle ∈ (scan ignoreCode text).all) : IsHandle handle.toList := by
  obtain ⟨place, -, -, hmentions⟩ := mem_all_scan.1 h
  exact (isHandle_of_handle? (names_iff.1 hmentions).2).1

/-- What is no handle character does not stand in a handle. -/
theorem IsHandle.not_mem (h : IsHandle text) (hc : isHandleChar c = false) : c ∉ text := by
  intro hmem
  have hinner := h.inner c hmem
  rw [hc] at hinner
  cases hinner

/-- A line that starts with an `@` is no fence. -/
theorem not_isFence_cons (rest : List Char) : ¬ IsFence ('@' :: rest) := by
  rw [← isFence_iff]
  simp [isFence, tick]

/-! ### Lines -/

/-- A text without line feeds is one line. -/
theorem linesAfter_of_not_mem (h : '\n' ∉ text) (hreversed : reversed ≠ []) :
    linesAfter reversed text = [reversed.reverse ++ text] := by
  induction text generalizing reversed with
  | nil => rw [linesAfter, if_neg (by simpa using hreversed), List.append_nil]
  | cons c rest ih =>
    rw [List.mem_cons, not_or] at h
    rw [linesAfter, if_neg (Ne.symm h.1), ih h.2 (List.cons_ne_nil _ _), List.reverse_cons,
      List.append_assoc]
    rfl

/-- A line feed ends a line. -/
theorem linesAfter_append (h : '\n' ∉ line) (reversed rest : List Char) :
    linesAfter reversed (line ++ '\n' :: rest) =
      endLine (line.reverse ++ reversed) :: linesAfter [] rest := by
  induction line generalizing reversed with
  | nil =>
    rw [List.nil_append, linesAfter, if_pos rfl]
    rfl
  | cons c line ih =>
    rw [List.mem_cons, not_or] at h
    rw [List.cons_append, linesAfter, if_neg (Ne.symm h.1), ih h.2, List.reverse_cons,
      List.append_assoc]
    rfl

/-- Nothing but its end is taken off a line without carriage returns. -/
theorem endLine_of_not_mem (h : '\r' ∉ reversed) : endLine reversed = reversed.reverse := by
  unfold endLine
  split
  · exact absurd List.mem_cons_self h
  · rfl

/-! ### Handles that are lines -/

/-- A line that is an `@` and a handle has one mention, which opens the line. -/
theorem occurrences_handle {handle : List Char} (h : IsHandle handle) :
    occurrences ('@' :: handle) = [⟨String.ofList handle, true⟩] := by
  have hfound : handle? handle = some handle := by
    have happended : handle? (handle ++ []) = some handle := h.handle?_append (by simp)
    rwa [List.append_nil] at happended
  have hlater : occurrencesAfter ['@'] handle = [] := by
    have hnone := occurrencesAfter_append (h.not_mem (by decide)) ['@'] []
    rw [List.append_nil] at hnone
    exact hnone
  have hopening : isOpening [] = true := rfl
  simp [occurrences, occurrencesAfter, hfound, hlater, hopening]

/-- **If each line of a text is an `@` and a handle, these handles are addressed, and nothing else is
mentioned.** -/
theorem scan_of_lines {text : String} (ignoreCode : Bool) (handles : List String)
    (h : ∀ handle ∈ handles, IsHandle handle.toList)
    (hlines : lines text.toList = handles.map fun handle => '@' :: handle.toList) :
    scan ignoreCode text = ⟨ascending handles, []⟩ := by
  have hprose : proseLines ignoreCode text.toList =
      handles.map fun handle => '@' :: handle.toList := by
    rw [proseLines, hlines]
    split
    · refine unfenced_of_plain fun line hline => ?_
      obtain ⟨handle, hhandle, rfl⟩ := List.mem_map.1 hline
      rw [List.mem_cons, not_or]
      exact ⟨⟨by decide, (h handle hhandle).not_mem (by decide)⟩, not_isFence_cons _⟩
    · rfl
  have hoccurrences : (handles.map fun handle => '@' :: handle.toList).flatMap occurrences =
      handles.map fun handle => ⟨handle, true⟩ := by
    rw [List.flatMap_map, List.map_eq_flatMap]
    refine List.flatMap_congr fun handle hhandle => ?_
    rw [occurrences_handle (h handle hhandle), String.ofList_toList]
  rw [scan, hprose, hoccurrences]
  simp [collect, List.filter_map, Function.comp_def]

/-- **An `@` and a handle mention that handle, which opens the line, and nothing else.** -/
theorem scan_reference {handle : String} (ignoreCode : Bool) (h : IsHandle handle.toList) :
    scan ignoreCode ("@" ++ handle) = ⟨[handle], []⟩ := by
  refine scan_of_lines ignoreCode [handle] (List.forall_mem_singleton.2 h) ?_
  have htext : ("@" ++ handle).toList = '@' :: handle.toList := by simp
  rw [htext, lines, linesAfter, if_neg (by decide)]
  exact linesAfter_of_not_mem (h.not_mem (by decide)) (List.cons_ne_nil _ _)

/-- A line for each of the handles. -/
def rollCall (handles : List String) : String :=
  .ofList (handles.flatMap fun handle => '@' :: handle.toList ++ ['\n'])

/-- The lines of a roll call. -/
theorem lines_rollCall {handles : List String} (h : ∀ handle ∈ handles, IsHandle handle.toList) :
    lines (rollCall handles).toList = handles.map fun handle => '@' :: handle.toList := by
  rw [rollCall, String.toList_ofList, lines]
  induction handles with
  | nil => rfl
  | cons handle rest ih =>
    obtain ⟨hhandle, hrest⟩ := List.forall_mem_cons.1 h
    have hfeed : '\n' ∉ '@' :: handle.toList := by
      rw [List.mem_cons, not_or]
      exact ⟨by decide, hhandle.not_mem (by decide)⟩
    have hreturn : '\r' ∉ ('@' :: handle.toList).reverse := by
      rw [List.mem_reverse, List.mem_cons, not_or]
      exact ⟨by decide, hhandle.not_mem (by decide)⟩
    rw [List.flatMap_cons, List.append_assoc, List.singleton_append, linesAfter_append hfeed,
      List.append_nil, endLine_of_not_mem hreturn, List.reverse_reverse, ih hrest, List.map_cons]

/-- The handles of a roll call are those that are called. -/
theorem mem_scan_rollCall {handles : List String} (ignoreCode : Bool)
    (h : ∀ handle ∈ handles, IsHandle handle.toList) {handle : String} :
    handle ∈ (scan ignoreCode (rollCall handles)).all ↔ handle ∈ handles := by
  rw [scan_of_lines ignoreCode handles h (lines_rollCall h), Mentions.mem_all]
  simp

/-- **If different handles are called, as many are found.** -/
theorem length_le_scan_rollCall {handles : List String} (ignoreCode : Bool)
    (h : ∀ handle ∈ handles, IsHandle handle.toList) (hnodup : handles.Nodup) :
    handles.length ≤ (scan ignoreCode (rollCall handles)).all.length := by
  have hfound : handles ⊆ (scan ignoreCode (rollCall handles)).all :=
    fun handle hhandle => (mem_scan_rollCall ignoreCode h).2 hhandle
  exact (List.subperm_of_subset hnodup hfound).length_le

/-! ### Many handles -/

/-- All words of three of these letters. -/
def threeLetterWords (letters : List Char) : List String :=
  (letters ×ˢ letters ×ˢ letters).map fun (a, b, c) => .ofList [a, b, c]

/-- Such a word has letters of the given ones only. -/
theorem exists_of_mem_threeLetterWords {letters : List Char} {word : String}
    (h : word ∈ threeLetterWords letters) :
    ∃ a ∈ letters, ∃ b ∈ letters, ∃ c ∈ letters, word.toList = [a, b, c] := by
  obtain ⟨⟨a, b, c⟩, hletters, rfl⟩ := List.mem_map.1 h
  obtain ⟨ha, hrest⟩ := List.mem_product.1 hletters
  obtain ⟨hb, hc⟩ := List.mem_product.1 hrest
  exact ⟨a, ha, b, hb, c, hc, String.toList_ofList⟩

/-- There are as many words as ways to choose three letters. -/
theorem length_threeLetterWords (letters : List Char) :
    (threeLetterWords letters).length = letters.length * (letters.length * letters.length) := by
  rw [threeLetterWords, List.length_map, List.length_product, List.length_product]

/-- The words of different letters are different. -/
theorem nodup_threeLetterWords {letters : List Char} (h : letters.Nodup) :
    (threeLetterWords letters).Nodup := by
  refine (h.product (h.product h)).map ?_
  rintro ⟨a, b, c⟩ ⟨d, e, f⟩ hsame
  have hlists := congrArg String.toList hsame
  simpa using hlists

/-- Words of word characters have the shape of a handle. -/
theorem isHandle_of_mem_threeLetterWords {letters : List Char}
    (h : ∀ letter ∈ letters, isWordChar letter) {word : String}
    (hword : word ∈ threeLetterWords letters) : IsHandle word.toList := by
  obtain ⟨a, ha, b, hb, c, hc, hletters⟩ := exists_of_mem_threeLetterWords hword
  rw [hletters]
  refine ⟨⟨a, rfl, h a ha⟩, ⟨c, rfl, h c hc⟩, fun letter hletter => ?_⟩
  refine isHandleChar_of_isWordChar (h letter ?_)
  rcases List.mem_cons.1 hletter with rfl | hletter
  · exact ha
  · rcases List.mem_cons.1 hletter with rfl | hletter
    · exact hb
    · exact List.mem_singleton.1 hletter ▸ hc

end TodoLedger.Mention
