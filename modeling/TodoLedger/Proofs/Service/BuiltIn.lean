import TodoLedger.Proofs.Recipients
import TodoLedger.Service.Handle

/-!
# What the built-in collaborators answer

* All handles of a text are looked for in one statement, and a statement takes so many values and no
  more. `Settings.Resolves text`: the text has no more handles than that.
* **The built-in collaborators tell to whom such a text refers, and fail for every other one**
  (`scan_builtIn`).
* `Settings.Takes change`: this is so of all texts in which mentions are looked for after a change.
  **Then the recipients are those that collaborators find who always answer; otherwise the built-in
  ones fail** (`ofMentions_builtIn`).
-/

namespace TodoLedger

/-- The texts in which mentions are looked for after a change: none if it only ticked boxes. -/
def TextChange.scanned (change : TextChange) : List String :=
  match change.previous with
  | none => [change.current]
  | some previous =>
    if TaskList.onlyStatesChanged previous change.current then [] else [previous, change.current]

namespace Service

variable {settings : Settings} {db : Database} {text : String}

/-- What the built-in collaborators answer, if they do. -/
def answers (settings : Settings) (db : Database) : Answers where
  ignoreCode := settings.ignoreCodeBlocks
  lookup _ := db.userId?
  canSee := db.canSee

/-- All handles of the text can be looked for in one statement. -/
def Settings.Resolves (settings : Settings) (text : String) : Prop :=
  (Mention.scan settings.ignoreCodeBlocks text).all.length ≤ Database.maxVariables

instance : Decidable (settings.Resolves text) := inferInstanceAs (Decidable (_ ≤ _))

/-- Ticking boxes makes no difference to the number of handles. -/
theorem Settings.resolves_iff_of_onlyStatesChanged {previous : String}
    (h : TaskList.onlyStatesChanged previous text = true) :
    settings.Resolves previous ↔ settings.Resolves text := by
  rw [TaskList.onlyStatesChanged, beq_iff_eq] at h
  rw [Settings.Resolves, Settings.Resolves, Mention.scan_congr h]

/-- All handles of these texts can be looked for. -/
def Settings.Takes (settings : Settings) (change : TextChange) : Prop :=
  ∀ text ∈ change.scanned, settings.Resolves text

instance {change : TextChange} : Decidable (settings.Takes change) :=
  inferInstanceAs (Decidable (∀ text ∈ _, _))

/-- Where the earlier text is not known, the current one is looked at. -/
theorem Settings.takes_new_iff : settings.Takes ⟨text, none⟩ ↔ settings.Resolves text :=
  List.forall_mem_singleton

/-- Where the earlier text is known, both are, unless only boxes were ticked. -/
theorem Settings.takes_edited_iff {previous : String} :
    settings.Takes ⟨text, some previous⟩ ↔ TaskList.onlyStatesChanged previous text = true ∨
      settings.Resolves previous ∧ settings.Resolves text := by
  simp only [Settings.Takes, TextChange.scanned]
  split
  · next hticked => simp [hticked]
  · next hticked => simp [hticked]

/-- **It makes no difference to the look-up whether the earlier text is known, if that text has not
too many handles.** If it has, the current text must have too many as well, and more be changed than
boxes. -/
theorem Settings.takes_iff_takes_iff {previous : String} :
    (settings.Takes ⟨text, some previous⟩ ↔ settings.Takes ⟨text, none⟩) ↔
      settings.Resolves previous ∨
        ¬ settings.Resolves text ∧ ¬ TaskList.onlyStatesChanged previous text = true := by
  have hticked : TaskList.onlyStatesChanged previous text = true →
      (settings.Resolves previous ↔ settings.Resolves text) :=
    resolves_iff_of_onlyStatesChanged
  rw [takes_edited_iff, takes_new_iff]
  by_cases hprevious : settings.Resolves previous
  · refine iff_of_true ⟨?_, fun htext => .inr ⟨hprevious, htext⟩⟩ (.inl hprevious)
    rintro (hboxes | ⟨-, htext⟩)
    · exact (hticked hboxes).1 hprevious
    · exact htext
  · constructor
    · intro hsame
      have htext : ¬ settings.Resolves text := by
        intro htext
        rcases hsame.2 htext with hboxes | ⟨hresolves, -⟩
        · exact hprevious ((hticked hboxes).2 htext)
        · exact hprevious hresolves
      exact .inr ⟨htext, fun hboxes => htext (hsame.1 (.inl hboxes))⟩
    · rintro (hresolves | ⟨htext, hboxes⟩)
      · exact absurd hresolves hprevious
      · exact iff_of_false (not_or_intro hboxes fun hboth => hprevious hboth.1) htext

/-- The fault of a text with too many handles. -/
def tooManyHandles : Fault := ⟨[.resolveHandles], .tooManyVariables⟩

/-- To whom a text refers, if it has not too many handles. -/
def found (settings : Settings) (db : Database) (text : String) : Except Fault (Mentions UserId) :=
  if settings.Resolves text then .ok ((answers settings db).references text)
  else .error tooManyHandles

/-- The handles of such a text are looked for. -/
theorem userIds?_of_resolves (h : settings.Resolves text) :
    db.userIds? (Mention.scan settings.ignoreCodeBlocks text).all = .ok db.userId? :=
  if_pos h

/-- Those of another text are too many. -/
theorem userIds?_of_not_resolves (h : ¬ settings.Resolves text) :
    db.userIds? (Mention.scan settings.ignoreCodeBlocks text).all = .error ⟨[], .tooManyVariables⟩ :=
  if_neg h

/-- A text without handles has not too many. -/
theorem not_isEmpty_of_not_resolves (h : ¬ settings.Resolves text) :
    (Mention.scan settings.ignoreCodeBlocks text).isEmpty = false := by
  refine Bool.eq_false_iff.2 fun hempty => h ?_
  rw [Mentions.isEmpty, Bool.and_eq_true, List.isEmpty_iff, List.isEmpty_iff] at hempty
  rw [Settings.Resolves, Mentions.all, hempty.1, hempty.2]
  exact Nat.zero_le _

variable {n : Type → Type} [Monad n] [LawfulMonad n]

/-- **The built-in collaborators tell to whom a text refers if it has not too many handles, and fail
otherwise.** -/
theorem scan_builtIn (settings : Settings) (db : Database) (text : String) :
    (Collaborators.builtIn settings : Collaborators n).scan db text =
      ExceptT.mk (pure (found settings db text)) := by
  rw [found]
  split
  · next hresolves =>
    refine Answers.scanUsers_eq_pure (fun handles => ExceptT.mk (pure (db.userIds? handles))) ?_
    rw [userIds?_of_resolves hresolves]
    rfl
  · next hresolves =>
    simp only [Collaborators.builtIn, Mention.scanUsers]
    rw [not_isEmpty_of_not_resolves hresolves, if_neg Bool.false_ne_true,
      userIds?_of_not_resolves hresolves, Answers.adapt_mk_pure]
    apply ExceptT.ext
    rw [ExceptT.run_bind]
    exact pure_bind _ _

/-- The same of the collaborators with which recipients are found. -/
theorem references_builtIn (settings : Settings) (db : Database) (text : String) :
    ((Collaborators.builtIn settings : Collaborators n).witnesses db).references text =
      ExceptT.mk (pure ((found settings db text).mapError .references)) := by
  rw [Witnesses.references, Collaborators.witnesses]
  simp only [scan_builtIn]
  exact Answers.adapt_mk_pure _ _

/-- A text with not too many handles refers to those to whom it shall. -/
theorem references_of_resolves (h : settings.Resolves text) :
    ((Collaborators.builtIn settings : Collaborators n).witnesses db).references text =
      pure ((answers settings db).references text) := by
  rw [references_builtIn, found, if_pos h]
  rfl

/-- A text with too many handles makes the error. -/
theorem references_of_not_resolves (h : ¬ settings.Resolves text) :
    ((Collaborators.builtIn settings : Collaborators n).witnesses db).references text =
      throw (.references tooManyHandles) := by
  rw [references_builtIn, found, if_neg h]
  rfl

/-! ### Recipients -/

omit [LawfulMonad n] in
/-- Who sees a target the built-in collaborators tell whatever was asked before. -/
theorem seers_builtIn (settings : Settings) (db : Database) (target : Target) (users : List UserId) :
    ((Collaborators.builtIn settings : Collaborators n).witnesses db).seers target users =
      ((answers settings db).witnesses n).seers target users := by
  induction users with
  | nil => rfl
  | cons user rest ih =>
    rw [Witnesses.seers, Witnesses.seers, ih]
    rfl

/-- The recipients on account of the current text. -/
theorem ofText_builtIn (skip : List UserId) (target : Target) :
    Recipient.ofText ((Collaborators.builtIn settings : Collaborators n).witnesses db) text skip
        target =
      if settings.Resolves text then
        Recipient.ofText ((answers settings db).witnesses n) text skip target
      else throw (.references tooManyHandles) := by
  rw [Recipient.ofText]
  split
  · next hresolves =>
    rw [references_of_resolves hresolves, Recipient.ofText, Answers.references_witnesses]
    simp only [seers_builtIn]
  · next hresolves => rw [references_of_not_resolves hresolves, Answers.throw_bind]

/-- **The recipients on account of a change are found as by collaborators that always answer, unless
a text has too many handles.** -/
theorem ofMentions_builtIn (change : TextChange) (skip : List UserId) (target : Target) :
    Recipient.ofMentions ((Collaborators.builtIn settings : Collaborators n).witnesses db) change skip
        target =
      if settings.Takes change then
        Recipient.ofMentions ((answers settings db).witnesses n) change skip target
      else throw (.references tooManyHandles) := by
  obtain ⟨current, previous⟩ := change
  cases previous with
  | none =>
    simp only [Settings.takes_new_iff]
    exact ofText_builtIn skip target
  | some previous =>
    simp only [Settings.takes_edited_iff, Recipient.ofMentions]
    by_cases hticked : TaskList.onlyStatesChanged previous current = true
    · rw [if_pos hticked, if_pos (.inl hticked), if_pos hticked]
    · rw [if_neg hticked, if_neg hticked]
      by_cases hprevious : settings.Resolves previous
      · rw [references_of_resolves hprevious, pure_bind, ofText_builtIn,
          Answers.references_witnesses, pure_bind]
        simp only [hticked, hprevious, Bool.false_eq_true, false_or, true_and]
      · rw [references_of_not_resolves hprevious, Answers.throw_bind, if_neg]
        simp [hticked, hprevious]

end Service

end TodoLedger
