import TodoLedger.Mention.Handle
import TodoLedger.Proofs.Text.Runs

/-!
# The grammar of mentions

What a handle, a mention and an opening run are, said without the functions that look for them.

* A handle has word characters at both ends and handle characters between (`IsHandle`). What a text
  names is its leading run of handle characters, less the joints at its end (`trimmedRun`), and
  `handle?` finds it (`handle?_eq`).
* `Names before after handle`: an `@` between the two texts is a mention of the handle.
  **A line has exactly the occurrences that its `@`s are** (`mem_occurrences`).
* An opening run is spaces and tabs, and then groups of an `@`, a handle and separators (`IsRun`).
  **`isOpening` holds exactly of these** (`isOpening_iff`).
-/

namespace TodoLedger.Mention

open TodoLedger.Text

variable {c : Char} {text rest handle : List Char}

/-! ### Handles -/

/-- The characters that may stand in a handle, and not at its ends. -/
def isJoint (c : Char) : Bool := c = '.' || c = '-'

/-- The shape of a handle. -/
structure IsHandle (text : List Char) : Prop where
  first : ∃ c ∈ text.head?, isWordChar c
  last : ∃ c ∈ text.getLast?, isWordChar c
  inner : ∀ c ∈ text, isHandleChar c

/-- The longest run of handle characters at the start of a text, without the joints at its end. -/
def trimmedRun (text : List Char) : List Char := (text.takeWhile isHandleChar).rdropWhile isJoint

/-- Word characters may stand in a handle. -/
theorem isHandleChar_of_isWordChar (h : isWordChar c) : isHandleChar c := by
  simp [isHandleChar, h]

/-- No word character is a joint. -/
theorem isJoint_eq_false (h : isWordChar c) : isJoint c = false := by
  cases hc : isJoint c with
  | false => rfl
  | true =>
    simp only [isJoint, Bool.or_eq_true, decide_eq_true_eq] at hc
    rcases hc with rfl | rfl <;> exact absurd h (by decide)

/-- The handle characters besides the joints are word characters. -/
theorem isWordChar_of_isHandleChar (h : isHandleChar c) (hc : isJoint c = false) :
    isWordChar c := by
  simp_all [isHandleChar, isJoint]

/-- Dropping the joints at the end is taking off the longest run of them. -/
theorem dropJoints_eq (h : ∀ c ∈ text, isHandleChar c) :
    dropJoints text = text.rdropWhile isJoint := by
  induction text with
  | nil => rfl
  | cons c rest ih =>
    rw [List.forall_mem_cons] at h
    rw [rdropWhile_cons, ← ih h.2, dropJoints]
    cases dropJoints rest with
    | cons => rfl
    | nil =>
      rw [if_pos rfl]
      cases hc : isJoint c with
      | false => simp [isWordChar_of_isHandleChar h.1 hc]
      | true =>
        have hword : ¬ isWordChar c := fun hword => by
          rw [isJoint_eq_false hword] at hc
          cases hc
        simp [hword]

/-- `handle?` finds the trimmed run at the start of a text that starts with a word character. -/
theorem handle?_eq (text : List Char) :
    handle? text = if text.head?.any isWordChar then some (trimmedRun text) else none := by
  cases text with
  | nil => rfl
  | cons c rest =>
    rw [handle?, dropJoints_eq fun c hc => List.mem_takeWhile_imp hc]
    rfl

/-- A handle is found where it ends. -/
theorem IsHandle.handle?_append (h : IsHandle handle)
    (hrest : ∀ c ∈ rest.head?, isHandleChar c = false) :
    handle? (handle ++ rest) = some handle := by
  obtain ⟨first, hfirst, hword⟩ := h.first
  obtain ⟨last, hlast, hend⟩ := h.last
  have hhead : (handle ++ rest).head?.any isWordChar := by
    rw [List.head?_append, Option.mem_def.1 hfirst]
    exact hword
  have hkept : handle.rdropWhile isJoint = handle := by
    rw [List.rdropWhile_eq_self_iff]
    intro hne
    rw [List.getLast_of_mem_getLast? hlast, isJoint_eq_false hend]
    exact Bool.false_ne_true
  rw [handle?_eq, if_pos hhead, trimmedRun, takeWhile_append_of_head? h.inner hrest, hkept]

/-- The run and its joints are taken off the end only. -/
theorem trimmedRun_prefix (text : List Char) : trimmedRun text <+: text :=
  (List.rdropWhile_prefix _ _).trans (List.takeWhile_prefix _)

/-- The run consists of handle characters. -/
theorem isHandleChar_of_mem_trimmedRun (hc : c ∈ trimmedRun text) : isHandleChar c :=
  List.mem_takeWhile_imp ((List.rdropWhile_prefix _ _).subset hc)

/-- The run after a word character is not trimmed away. -/
theorem trimmedRun_ne_nil (h : isWordChar c) : trimmedRun (c :: rest) ≠ [] := by
  rw [trimmedRun, Ne, List.rdropWhile_eq_nil_iff]
  intro hall
  have hjoint := hall c (by simp [isHandleChar_of_isWordChar h])
  rw [isJoint_eq_false h] at hjoint
  cases hjoint

/-- What a text that starts with a word character names has the shape of a handle. -/
theorem isHandle_trimmedRun (h : isWordChar c) : IsHandle (trimmedRun (c :: rest)) := by
  have hne : trimmedRun (c :: rest) ≠ [] := trimmedRun_ne_nil h
  refine ⟨⟨c, ?_, h⟩, ⟨(trimmedRun (c :: rest)).getLast hne, ?_, ?_⟩,
    fun d hd => isHandleChar_of_mem_trimmedRun hd⟩
  · obtain ⟨tail, htail⟩ := trimmedRun_prefix (c :: rest)
    have hhead : (trimmedRun (c :: rest) ++ tail).head? = (trimmedRun (c :: rest)).head? :=
      List.head?_append_of_ne_nil _ hne
    rw [htail] at hhead
    exact hhead.symm
  · exact List.getLast?_eq_getLast_of_ne_nil hne
  · have hlast : ¬ isJoint ((trimmedRun (c :: rest)).getLast hne) = true :=
      List.rdropWhile_last_not isJoint _ hne
    exact isWordChar_of_isHandleChar (isHandleChar_of_mem_trimmedRun (List.getLast_mem hne))
      (Bool.eq_false_iff.2 hlast)

/-- What is found has the shape of a handle, and the text starts with it. -/
theorem isHandle_of_handle? (h : handle? text = some handle) : IsHandle handle ∧ handle <+: text := by
  cases text with
  | nil => cases h
  | cons c rest =>
    rw [handle?_eq] at h
    split at h
    · next hword =>
      obtain rfl := Option.some.inj h
      exact ⟨isHandle_trimmedRun hword, trimmedRun_prefix _⟩
    · cases h

/-! ### Opening runs -/

/-- An `@`, a handle and any separators. -/
def IsGroup (text : List Char) : Prop :=
  ∃ handle separators, text = '@' :: (handle ++ separators) ∧ IsHandle handle ∧
    ∀ c ∈ separators, isSeparator c

/-- Any spaces and tabs, and then any number of groups. -/
def IsRun (text : List Char) : Prop :=
  ∃ indent groups, text = indent ++ List.flatten groups ∧ (∀ c ∈ indent, isIndent c) ∧
    ∀ group ∈ groups, IsGroup group

/-- Groups start with an `@`, if there are any. -/
theorem head?_flatten_of_isGroup {groups : List (List Char)} (h : ∀ group ∈ groups, IsGroup group) :
    ∀ c ∈ groups.flatten.head?, c = '@' := by
  cases groups with
  | nil => simp
  | cons group groups =>
    obtain ⟨handle, separators, rfl, -⟩ := h group List.mem_cons_self
    simp

/-- A separator ends a handle. -/
theorem isHandleChar_of_isSeparator (h : isSeparator c) : isHandleChar c = false := by
  simp only [isSeparator, Bool.or_eq_true, decide_eq_true_eq, or_assoc] at h
  rcases h with rfl | rfl | rfl <;> decide

/-- A handle before separators and groups is found as it is: neither a separator nor the next `@`
belongs to it. -/
theorem handle?_of_groups {separators : List Char} {groups : List (List Char)}
    (hhandle : IsHandle handle) (hseparators : ∀ c ∈ separators, isSeparator c)
    (hgroups : ∀ group ∈ groups, IsGroup group) :
    handle? (handle ++ (separators ++ groups.flatten)) = some handle := by
  refine hhandle.handle?_append fun c hc => ?_
  cases separators with
  | nil =>
    obtain rfl := head?_flatten_of_isGroup hgroups c hc
    decide
  | cons separator separators =>
    obtain rfl : separator = c := by simpa using hc
    exact isHandleChar_of_isSeparator (hseparators _ List.mem_cons_self)

/-- The text consists of groups. -/
def IsGroups (text : List Char) : Prop :=
  ∃ groups, text = List.flatten groups ∧ ∀ group ∈ groups, IsGroup group

/-- A text consists of groups if its first one can be taken off and the rest does. -/
theorem isGroups_cons_iff :
    IsGroups (c :: rest) ↔ c = '@' ∧ ∃ handle, handle? rest = some handle ∧
      IsGroups ((rest.drop handle.length).dropWhile isSeparator) := by
  constructor
  · rintro ⟨groups, hflatten, hall⟩
    cases groups with
    | nil => cases hflatten
    | cons group groups =>
      rw [List.forall_mem_cons] at hall
      obtain ⟨⟨handle, separators, rfl, hhandle, hseparators⟩, hall⟩ := hall
      rw [List.flatten_cons, List.cons_append, List.append_assoc, List.cons.injEq] at hflatten
      obtain ⟨rfl, rfl⟩ := hflatten
      have hstop : ∀ c ∈ groups.flatten.head?, isSeparator c = false := fun c hc => by
        obtain rfl := head?_flatten_of_isGroup hall c hc
        decide
      refine ⟨rfl, handle, handle?_of_groups hhandle hseparators hall, groups, ?_, hall⟩
      rw [List.drop_left, dropWhile_append_of_head? hseparators hstop]
  · rintro ⟨rfl, handle, hfound, groups, hflatten, hall⟩
    obtain ⟨hhandle, after, rfl⟩ := isHandle_of_handle? hfound
    rw [List.drop_left] at hflatten
    have hgroup : IsGroup ('@' :: (handle ++ after.takeWhile isSeparator)) :=
      ⟨handle, _, rfl, hhandle, fun c hc => List.mem_takeWhile_imp hc⟩
    refine ⟨_ :: groups, ?_, List.forall_mem_cons.2 ⟨hgroup, hall⟩⟩
    rw [List.flatten_cons, ← hflatten, List.cons_append, List.append_assoc,
      List.takeWhile_append_dropWhile]

/-- `isGroups` holds of the sequences of groups that are no longer than its bound. -/
theorem isGroups_iff {bound : Nat} (hbound : text.length ≤ bound) :
    isGroups bound text = true ↔ IsGroups text := by
  have hnil : IsGroups [] := ⟨[], rfl, by simp⟩
  induction bound generalizing text with
  | zero =>
    obtain rfl := List.length_eq_zero_iff.1 (Nat.le_zero.1 hbound)
    exact iff_of_true rfl hnil
  | succ bound ih =>
    cases text with
    | nil => exact iff_of_true rfl hnil
    | cons c rest =>
      have hlength (n : Nat) : ((rest.drop n).dropWhile isSeparator).length ≤ bound := by
        have hdropped := (List.dropWhile_suffix (l := rest.drop n) isSeparator).length_le
        rw [List.length_drop] at hdropped
        rw [List.length_cons] at hbound
        omega
      rw [isGroups, isGroups_cons_iff, Bool.and_eq_true, decide_eq_true_eq]
      refine and_congr_right fun _ => ?_
      cases handle? rest with
      | none => simp
      | some handle =>
        have hrest : isGroups bound ((rest.drop handle.length).dropWhile isSeparator) = true ↔
            IsGroups ((rest.drop handle.length).dropWhile isSeparator) := ih (hlength _)
        simp only [hrest, Option.some.injEq, exists_eq_left']

/-- **A text is opening exactly when it is a run.** -/
theorem isOpening_iff (text : List Char) : isOpening text = true ↔ IsRun text := by
  rw [isOpening, isGroups_iff (List.dropWhile_suffix _).length_le]
  constructor
  · rintro ⟨groups, hflatten, hall⟩
    refine ⟨text.takeWhile isIndent, groups, ?_, fun c hc => List.mem_takeWhile_imp hc, hall⟩
    rw [← hflatten, List.takeWhile_append_dropWhile]
  · rintro ⟨indent, groups, rfl, hindent, hall⟩
    refine ⟨groups, dropWhile_append_of_head? hindent fun c hc => ?_, hall⟩
    obtain rfl := head?_flatten_of_isGroup hall c hc
    decide

/-! ### Mentions -/

/-- An `@` between the two texts is a mention of the handle: a word character follows it, no
character that joins it to a word stands before it, and the handle is the trimmed run after it. -/
structure Names (before after handle : List Char) : Prop where
  starts : ∃ c ∈ after.head?, isWordChar c
  free : ∀ c ∈ before.getLast?, joins c = false
  handle_eq : handle = trimmedRun after

/-- A mention is an `@` that nothing joins to a word and behind which a handle is found. -/
theorem names_iff {before after : List Char} :
    Names before after handle ↔
      before.getLast?.any joins = false ∧ handle? after = some handle := by
  rw [handle?_eq]
  constructor
  · rintro ⟨⟨c, hc, hword⟩, hfree, rfl⟩
    refine ⟨?_, if_pos ((Option.any_eq_true _ _).2 ⟨c, hc, hword⟩)⟩
    exact (Option.any_eq_false _ _).2 hfree
  · rintro ⟨hfree, hfound⟩
    split at hfound
    · next hstarts =>
      obtain ⟨c, hc, hword⟩ := (Option.any_eq_true _ _).1 hstarts
      refine ⟨⟨c, hc, hword⟩, fun c hc => ?_, (Option.some.inj hfound).symm⟩
      exact (Option.any_eq_false _ _).1 hfree c hc
    · cases hfound

/-- A member of a list stands at its start or in its tail. -/
theorem exists_split_cons_iff {α : Type} {first x : α} {rest : List α}
    {p : List α → List α → Prop} :
    (∃ before after, first :: rest = before ++ x :: after ∧ p before after) ↔
      first = x ∧ p [] rest ∨
        ∃ before after, rest = before ++ x :: after ∧ p (first :: before) after := by
  constructor
  · rintro ⟨before, after, hsplit, hp⟩
    cases before with
    | nil =>
      obtain ⟨rfl, rfl⟩ := List.cons.inj hsplit
      exact .inl ⟨rfl, hp⟩
    | cons _ before =>
      obtain ⟨rfl, hrest⟩ := List.cons.inj hsplit
      exact .inr ⟨before, after, hrest, hp⟩
  · rintro (⟨rfl, hp⟩ | ⟨before, after, rfl, hp⟩)
    · exact ⟨[], rest, rfl, hp⟩
    · exact ⟨first :: before, after, rfl, hp⟩

/-- The mentions in the rest of a line, with what precedes it. -/
theorem mem_occurrencesAfter {reversed line : List Char} {o : Occurrence} :
    o ∈ occurrencesAfter reversed line ↔ ∃ before after, line = before ++ '@' :: after ∧
      Names (reversed.reverse ++ before) after o.handle.toList ∧
        o.opening = isOpening (reversed.reverse ++ before) := by
  induction line generalizing reversed with
  | nil => simp [occurrencesAfter]
  | cons c rest ih =>
    rw [exists_split_cons_iff, List.append_nil, names_iff, List.getLast?_reverse]
    have hlater : o ∈ occurrencesAfter (c :: reversed) rest ↔
        ∃ before after, rest = before ++ '@' :: after ∧
          Names (reversed.reverse ++ c :: before) after o.handle.toList ∧
            o.opening = isOpening (reversed.reverse ++ c :: before) := by
      rw [ih]
      simp only [List.reverse_cons, List.append_assoc, List.singleton_append]
    rw [← hlater, occurrencesAfter]
    by_cases hstart : c = '@' ∧ reversed.head?.any joins = false
    · have hcond : (c = '@' && !reversed.head?.any joins) = true := by simp [hstart]
      rw [if_pos hcond]
      cases hfound : handle? rest with
      | none => simp
      | some handle =>
        have ho : o = ⟨String.ofList handle, isOpening reversed.reverse⟩ ↔
            handle = o.handle.toList ∧ o.opening = isOpening reversed.reverse := by
          obtain ⟨name, opening⟩ := o
          rw [Occurrence.mk.injEq]
          refine and_congr_left fun _ => ⟨?_, ?_⟩
          · rintro rfl
            exact String.toList_ofList.symm
          · rintro rfl
            exact String.ofList_toList.symm
        simp [ho, hstart]
    · have hcond : ¬ (c = '@' && !reversed.head?.any joins) = true := by simpa using hstart
      rw [if_neg hcond]
      refine ⟨.inr, ?_⟩
      rintro (⟨hc, ⟨hfree, -⟩, -⟩ | hmem)
      · exact absurd ⟨hc, hfree⟩ hstart
      · exact hmem

/-- **The occurrences of a line are the mentions at its `@`s**, each marked when a run precedes
it. -/
theorem mem_occurrences {line : List Char} {o : Occurrence} :
    o ∈ occurrences line ↔ ∃ before after, line = before ++ '@' :: after ∧
      Names before after o.handle.toList ∧ (o.opening = true ↔ IsRun before) := by
  rw [occurrences, mem_occurrencesAfter]
  have hopening (before : List Char) :
      o.opening = isOpening before ↔ (o.opening = true ↔ IsRun before) := by
    rw [← isOpening_iff, Bool.eq_iff_iff]
  simp only [List.reverse_nil, List.nil_append, hopening]

end TodoLedger.Mention
