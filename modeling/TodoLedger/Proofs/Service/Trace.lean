import TodoLedger.Proofs.Service.Phases

/-!
# What the collaborators said

* `Collaborators.noted` works like the collaborators it is made of, and notes the users and targets
  for which the oracle answered that the user sees the target.
* `Traces c db x y P`: with noting collaborators `x` does what `y` does with those that note
  nothing, all that is noted is an answer of the oracle, and what is given has the property `P`
  together with what was noted.
* **Whoever shall receive a to-do was seen to see the target** (`traces_plan`, `traces_gather`):
  each op that an event asks for is one of the kinds in `IsAsked`.
-/

namespace TodoLedger.Service

open Ledger (Op)

variable {σ α β : Type}

/-! ### Notes -/

/-- Users and targets, each user with a target that the user sees. -/
abbrev Sightings : Type := List (UserId × Target)

/-- Does something in the world, beside what is noted. -/
def aside (x : StateM σ α) : StateM (σ × Sightings) α := fun (world, seen) =>
  let (a, world) := x.run world
  (a, world, seen)

/-- Asks the oracle, and notes the user and the target if the answer is yes. -/
def noting (user : UserId) (target : Target) (x : StateM σ (Except Fault Bool)) :
    StateM (σ × Sightings) (Except Fault Bool) := fun (world, seen) =>
  match x.run world with
  | (.ok true, world) => (.ok true, world, seen ++ [(user, target)])
  | (answer, world) => (answer, world, seen)

namespace Collaborators

/-- The collaborators, with notes of who sees what. -/
def noted (c : Collaborators (StateM σ)) : Collaborators (StateM (σ × Sightings)) where
  scan db text := ExceptT.mk (aside (c.scan db text).run)
  canSee db user target := ExceptT.mk (noting user target (c.canSee db user target).run)
  beginBatch db ops := ExceptT.mk (aside (c.beginBatch db ops).run)

/-- In some world the oracle answers that the user sees the target. -/
def Affirms (c : Collaborators (StateM σ)) (db : Database) (user : UserId) (target : Target) :
    Prop :=
  ∃ world, ((c.canSee db user target).run.run world).1 = .ok true

end Collaborators

/-! ### Traces -/

/-- With notes `x` does what `y` does without, and both give what has the property `P` together with
what is noted. -/
def Traces (c : Collaborators (StateM σ)) (db : Database)
    (x : ExceptT Error (StateM (σ × Sightings)) α) (y : ExceptT Error (StateM σ) α)
    (P : Sightings → α → Prop) : Prop :=
  ∀ world seen, ∃ new,
    x.run.run (world, seen) = ((y.run.run world).1, (y.run.run world).2, seen ++ new) ∧
      (∀ sighting ∈ new, c.Affirms db sighting.1 sighting.2) ∧
      ∀ a, (y.run.run world).1 = .ok a → P new a

namespace Traces

variable {c : Collaborators (StateM σ)} {db : Database} {P Q : Sightings → α → Prop}
  {x : ExceptT Error (StateM (σ × Sightings)) α} {y : ExceptT Error (StateM σ) α}

/-- Nobody is asked for what is given at once. -/
theorem pure {a : α} (h : P [] a) : Traces c db (Pure.pure a) (Pure.pure a) P := by
  intro world seen
  refine ⟨[], ?_, by simp, ?_⟩
  · rw [List.append_nil]
    rfl
  · rintro b ⟨⟩
    exact h

/-- Nobody is asked for a failure. -/
theorem throw (error : Error) :
    Traces c db (MonadExcept.throw error) (MonadExcept.throw error) P := by
  intro world seen
  refine ⟨[], ?_, by simp, ?_⟩
  · rw [List.append_nil]
    rfl
  · rintro b ⟨⟩

/-- A property may be weakened. -/
theorem mono (h : Traces c db x y P) (hPQ : ∀ new a, P new a → Q new a) : Traces c db x y Q := by
  intro world seen
  obtain ⟨new, hrun, hnew, hP⟩ := h world seen
  exact ⟨new, hrun, hnew, fun a ha => hPQ new a (hP a ha)⟩

/-- What is done one after the other is noted one after the other. -/
theorem bind {R : Sightings → β → Prop} {f : α → ExceptT Error (StateM (σ × Sightings)) β}
    {g : α → ExceptT Error (StateM σ) β} (h : Traces c db x y P)
    (hf : ∀ first a, P first a → Traces c db (f a) (g a) fun new b => R (first ++ new) b) :
    Traces c db (x >>= f) (y >>= g) R := by
  intro world seen
  obtain ⟨first, hrun, hfirst, hP⟩ := h world seen
  rw [run_run_bind, run_run_bind, hrun]
  generalize y.run.run world = answer at hP ⊢
  obtain ⟨_ | a, between⟩ := answer
  · exact ⟨first, rfl, hfirst, fun b hb => by cases hb⟩
  · obtain ⟨later, hrun, hlater, hR⟩ := hf first a (hP a rfl) between (seen ++ first)
    refine ⟨first ++ later, ?_, ?_, hR⟩
    · rw [← List.append_assoc]
      exact hrun
    · intro sighting hmem
      rcases List.mem_append.1 hmem with hmem | hmem
      · exact hfirst sighting hmem
      · exact hlater sighting hmem

/-- Asking to whom a text refers is not noted. -/
theorem references (c : Collaborators (StateM σ)) (db : Database) (text : String) :
    Traces c db ((c.noted.witnesses db).references text) ((c.witnesses db).references text)
      fun _ _ => True := by
  intro world seen
  refine ⟨[], ?_, by simp, fun _ _ => trivial⟩
  rw [List.append_nil]
  rfl

/-- Who is said to see the target is noted. -/
theorem sees (c : Collaborators (StateM σ)) (db : Database) (target : Target) (user : UserId) :
    Traces c db ((c.noted.witnesses db).sees target user) ((c.witnesses db).sees target user)
      fun seen answer => answer = true → (user, target) ∈ seen := by
  intro world seen
  change ∃ new,
    ((noting user target (c.canSee db user target).run (world, seen)).1.mapError Error.visibility,
      (noting user target (c.canSee db user target).run (world, seen)).2) =
      (((c.canSee db user target).run.run world).1.mapError Error.visibility,
        ((c.canSee db user target).run.run world).2, seen ++ new) ∧ _ ∧
      ∀ a, ((c.canSee db user target).run.run world).1.mapError Error.visibility = .ok a → _
  rw [noting]
  generalize hanswer : (c.canSee db user target).run.run world = answer
  obtain ⟨fault | sees, after⟩ := answer
  · refine ⟨[], by rw [List.append_nil], by simp, ?_⟩
    rintro _ ⟨⟩
  · cases sees with
    | false =>
      refine ⟨[], by rw [List.append_nil], by simp, ?_⟩
      rintro _ ⟨⟩ ⟨⟩
    | true =>
      refine ⟨[(user, target)], rfl, ?_, fun _ _ _ => List.mem_singleton_self _⟩
      intro sighting hmem
      rw [List.mem_singleton] at hmem
      subst hmem
      exact ⟨world, by rw [hanswer]⟩

/-- Asking whether the store takes a batch is not noted. -/
theorem beginBatch (c : Collaborators (StateM σ)) (db : Database) (ops : List Op) :
    Traces c db ((c.noted.beginBatch db ops).adapt .store) ((c.beginBatch db ops).adapt .store)
      fun _ _ => True := by
  intro world seen
  refine ⟨[], ?_, by simp, fun _ _ => trivial⟩
  rw [List.append_nil]
  rfl

end Traces

/-! ### Recipients -/

section Recipients

variable (c : Collaborators (StateM σ)) (db : Database) (target : Target)

/-- All recipients were seen to see the target. -/
def AllSeen (target : Target) (seen : Sightings) (recipients : List Recipient) : Prop :=
  ∀ recipient ∈ recipients, (recipient.userId, target) ∈ seen

/-- Those among users who see the target were seen to. -/
theorem traces_seers (users : List UserId) :
    Traces c db ((c.noted.witnesses db).seers target users) ((c.witnesses db).seers target users)
      fun seen seers => ∀ user ∈ seers, (user, target) ∈ seen := by
  induction users with
  | nil => exact .pure (by simp)
  | cons user rest ih =>
    refine .bind (.sees c db target user) fun first answer hanswer => ?_
    refine .bind ih fun later others hothers => .pure ?_
    have hlater : ∀ other ∈ others, (other, target) ∈ first ++ (later ++ []) := fun other hother =>
      List.mem_append_right _ (List.mem_append_left _ (hothers other hother))
    cases answer with
    | false => exact hlater
    | true =>
      intro other hother
      rcases List.mem_cons.1 hother with rfl | hother
      · exact List.mem_append_left _ (hanswer rfl)
      · exact hlater other hother

/-- Users to whom a text refers were seen to see the target. -/
theorem traces_ofText (current : String) (skip : List UserId) :
    Traces c db (Recipient.ofText (c.noted.witnesses db) current skip target)
      (Recipient.ofText (c.witnesses db) current skip target) (AllSeen target) := by
  refine .bind (.references c db current) fun first mentions _ => ?_
  refine .bind (traces_seers c db target _) fun later users husers => .pure ?_
  intro recipient hrecipient
  obtain ⟨user, huser, rfl⟩ := List.mem_map.1 hrecipient
  exact List.mem_append_right _ (List.mem_append_left _ (husers user huser))

/-- Users whom a text mentions were seen to see the target. -/
theorem traces_ofMentions (change : TextChange) (skip : List UserId) :
    Traces c db (Recipient.ofMentions (c.noted.witnesses db) change skip target)
      (Recipient.ofMentions (c.witnesses db) change skip target) (AllSeen target) := by
  obtain ⟨current, previous⟩ := change
  cases previous with
  | none => exact traces_ofText c db target current skip
  | some previous =>
    simp only [Recipient.ofMentions]
    split
    · exact .pure (by simp [AllSeen])
    · refine .bind (.references c db previous) fun first before _ => ?_
      refine (traces_ofText c db target current _).mono fun later recipients hseen => ?_
      exact fun recipient hrecipient => List.mem_append_right _ (hseen recipient hrecipient)

/-- Users who all get the same to-do were seen to see the target. -/
theorem traces_ofUsers (action : Action) (users : List UserId) :
    Traces c db (Recipient.ofUsers (c.noted.witnesses db) action users target)
      (Recipient.ofUsers (c.witnesses db) action users target) (AllSeen target) := by
  refine .bind (traces_seers c db target _) fun first seers hseers => .pure ?_
  intro recipient hrecipient
  obtain ⟨user, huser, rfl⟩ := List.mem_map.1 hrecipient
  exact List.mem_append_left _ (hseers user huser)

end Recipients

/-! ### Ops -/

/-- What an op is when an event asks for it, and the oracle has answered that users see targets. -/
def IsAsked (event : Event) (seen : Sightings) : Op → Prop
  | .upsert todo => ∃ target author noteId recipient, event.target? = some target ∧
      todo = newTodo target author noteId recipient ∧ (recipient.userId, target) ∈ seen
  | .resolveForTarget reference _ _ => ∃ target, event.target? = some target ∧
      reference = target.reference
  | .resolveCollection ids user resolution => event = .resolveTodos ids user resolution
  | .restoreCollection ids user => event = .restoreTodos ids user
  | .resolveAllForUser user _ => event = .markAllDone user
  | .purgeTarget reference => ∃ target, event = .targetDestroyed target ∧
      reference = target.reference

/-- What an event asks for. -/
def Asked (event : Event) (seen : Sightings) (ops : List Op) : Prop :=
  ∀ op ∈ ops, IsAsked event seen op

/-- Every event may ask for nothing. -/
theorem asked_nil (event : Event) (seen : Sightings) : Asked event seen [] :=
  fun _ hop => absurd hop List.not_mem_nil

/-- An event may ask for one op. -/
theorem asked_singleton {event : Event} {seen : Sightings} {op : Op} (h : IsAsked event seen op) :
    Asked event seen [op] := by
  intro other hother
  rw [List.mem_singleton] at hother
  exact hother ▸ h

/-- What is noted later takes nothing back. -/
theorem Asked.append {event : Event} {seen : Sightings} {ops : List Op} (h : Asked event seen ops)
    (later : Sightings) : Asked event (seen ++ later) ops := by
  intro op hop
  have hasked := h op hop
  cases op with
  | upsert todo =>
    obtain ⟨target, author, noteId, recipient, htarget, htodo, hseen⟩ := hasked
    exact ⟨target, author, noteId, recipient, htarget, htodo, List.mem_append_left _ hseen⟩
  | resolveForTarget | resolveCollection | restoreCollection | resolveAllForUser | purgeTarget =>
    exact hasked

section Plan

variable (c : Collaborators (StateM σ)) (db : Database) (settings : Settings) {event : Event}
  {target : Target}

/-- To-dos for recipients who were seen to see the target. -/
theorem asked_upserts (htarget : event.target? = some target) (author : UserId)
    (noteId : Option UInt64) {seen : Sightings} {recipients : List Recipient}
    (hseen : AllSeen target seen recipients) :
    Asked event seen (upserts target author noteId recipients) := by
  intro op hop
  obtain ⟨recipient, hrecipient, rfl⟩ := List.mem_map.1 hop
  exact ⟨target, author, noteId, recipient, htarget, rfl, hseen recipient hrecipient⟩

/-- A check of the target asks nobody. -/
theorem Traces.validated (target : Target) :
    Traces c db (validated target) (validated target) fun seen _ => seen = [] := by
  unfold Service.validated
  split
  · exact .pure rfl
  · exact .throw _

/-- What follows a check of the target. -/
theorem Traces.of_validated {x : ExceptT Error (StateM (σ × Sightings)) α}
    {y : ExceptT Error (StateM σ) α} {P : Sightings → α → Prop} (h : Traces c db x y P) :
    Traces c db (do Service.validated target; x) (do Service.validated target; y) P :=
  .bind (.validated c db target) fun _ _ hfirst => by
    subst hfirst
    exact h

/-- For a new target. -/
theorem traces_planNew (htarget : event.target? = some target) (user : UserId) :
    Traces c db (planNew (c.noted.witnesses db) settings target user)
      (planNew (c.witnesses db) settings target user) (Asked event) := by
  refine .of_validated c db ?_
  refine .bind (traces_ofUsers c db target .assigned _) fun first assigned hfirst => ?_
  refine .bind (traces_ofMentions c db target _ _) fun later mentioned hlater => .pure ?_
  refine asked_upserts htarget user none fun recipient hrecipient => ?_
  rcases List.mem_append.1 hrecipient with hrecipient | hrecipient
  · exact List.mem_append_left _ (hfirst recipient hrecipient)
  · exact List.mem_append_right _ (List.mem_append_left _ (hlater recipient hrecipient))

/-- For those whom a text mentions. -/
theorem traces_mentioned (htarget : event.target? = some target) (author : UserId)
    (noteId : Option UInt64) (change : TextChange) (skip : List UserId) (before : List Op)
    (hbefore : ∀ seen, Asked event seen before) :
    Traces c db
      (do
        let mentioned ← Recipient.ofMentions (c.noted.witnesses db) change skip target
        return before ++ upserts target author noteId mentioned)
      (do
        let mentioned ← Recipient.ofMentions (c.witnesses db) change skip target
        return before ++ upserts target author noteId mentioned) (Asked event) := by
  refine .bind (traces_ofMentions c db target change skip) fun seen mentioned hseen => .pure ?_
  intro op hop
  rw [List.append_nil]
  rcases List.mem_append.1 hop with hop | hop
  · exact hbefore seen op hop
  · exact asked_upserts htarget author noteId hseen op hop

/-- For an edited target. -/
theorem traces_planUpdate (htarget : event.target? = some target) (user : UserId)
    (previous : Option String) (skip : List UserId) :
    Traces c db (planUpdate (c.noted.witnesses db) target user previous skip)
      (planUpdate (c.witnesses db) target user previous skip) (Asked event) :=
  .of_validated c db (traces_mentioned c db htarget user none _ _ [] (asked_nil event))

/-- For to-dos on the target that become done. -/
theorem traces_planResolve (htarget : event.target? = some target) (user : Option UserId)
    (action : Option Action) :
    Traces c db (planResolve target user action) (planResolve target user action)
      (Asked event) :=
  .of_validated c db (.pure (asked_singleton ⟨target, htarget, rfl⟩))

/-- For a target that is worked on again. -/
theorem traces_planReopen (target : Target) :
    Traces c db (planReopen target) (planReopen target) (Asked event) :=
  .of_validated c db (.pure (asked_nil event []))

/-- For changed assignees. -/
theorem traces_planReassigned (htarget : event.target? = some target) (user : UserId)
    (oldAssignees : List UserId) :
    Traces c db (planReassigned (c.noted.witnesses db) target user oldAssignees)
      (planReassigned (c.witnesses db) target user oldAssignees) (Asked event) := by
  refine .of_validated c db ?_
  refine .bind (traces_ofUsers c db target .assigned _) fun seen assigned hseen => .pure ?_
  rw [List.append_nil]
  exact asked_upserts htarget user none hseen

/-- For trouble with a merge request. -/
theorem traces_planParticipants (htarget : event.target? = some target) (action : Action) :
    Traces c db (planParticipants (c.noted.witnesses db) target action)
      (planParticipants (c.witnesses db) target action) (Asked event) := by
  refine .of_validated c db ?_
  refine .bind (traces_ofUsers c db target action _) fun seen recipients hseen => .pure ?_
  intro op hop
  rw [List.append_nil]
  obtain ⟨recipient, hrecipient, hop⟩ := List.mem_flatMap.1 hop
  refine asked_upserts htarget recipient.userId none (fun other hother => ?_) op hop
  rw [List.mem_singleton] at hother
  exact hother ▸ hseen recipient hrecipient

/-- For a new note. -/
theorem traces_planNewNote {note : Note} (htarget : event.target? = some note.noteable)
    (user : UserId) :
    Traces c db (planNewNote (c.noted.witnesses db) note user)
      (planNewNote (c.witnesses db) note user) (Asked event) := by
  unfold planNewNote
  split
  · exact .pure (asked_nil event [])
  · exact .of_validated c db (traces_mentioned c db htarget user (some note.id) _ _
      [.resolveForTarget note.noteable.reference (some user) none] fun seen =>
        asked_singleton ⟨note.noteable, htarget, rfl⟩)

/-- For an edited note. -/
theorem traces_planUpdateNote {note : Note} (htarget : event.target? = some note.noteable)
    (user : UserId) (previous : Option String) (skip : List UserId) :
    Traces c db (planUpdateNote (c.noted.witnesses db) note user previous skip)
      (planUpdateNote (c.witnesses db) note user previous skip) (Asked event) := by
  unfold planUpdateNote
  split
  · exact .pure (asked_nil event [])
  · exact .of_validated c db
      (traces_mentioned c db htarget user (some note.id) _ _ [] (asked_nil event))

/-- For a user's own request. -/
theorem traces_planMark (htarget : event.target? = some target) (user : UserId) :
    Traces c db (planMark (c.noted.witnesses db) target user)
      (planMark (c.witnesses db) target user) (Asked event) := by
  refine .of_validated c db ?_
  split
  · exact .pure (asked_nil event [])
  · refine .bind (.sees c db target user) fun seen answer hanswer => ?_
    cases answer with
    | false => exact .pure (asked_nil event _)
    | true =>
      refine .pure (asked_upserts htarget user none fun recipient hrecipient => ?_)
      rw [List.mem_singleton] at hrecipient
      subst hrecipient
      exact List.mem_append_left _ (hanswer rfl)

/-- **Whoever shall receive a to-do was seen to see the target of the event.** -/
theorem traces_plan (event : Event) :
    Traces c db (plan (c.noted.witnesses db) settings event) (plan (c.witnesses db) settings event)
      (Asked event) := by
  cases event with
  | newIssue | newMergeRequest => exact traces_planNew c db settings rfl _
  | updateIssue | updateMergeRequest => exact traces_planUpdate c db rfl _ _ _
  | closeIssue | closeMergeRequest | mergeMergeRequest | push | awardEmoji |
    resolveTodosForTarget =>
    exact traces_planResolve c db rfl _ _
  | reopenIssue | reopenMergeRequest => exact traces_planReopen c db _
  | reassigned => exact traces_planReassigned c db rfl _ _
  | buildFailed | unmergeable => exact traces_planParticipants c db rfl _
  | newNote => exact traces_planNewNote c db rfl _
  | updateNote => exact traces_planUpdateNote c db rfl _ _ _
  | markTodo => exact traces_planMark c db rfl _
  | targetDestroyed target => exact .pure (asked_singleton ⟨target, rfl, rfl⟩)
  | resolveTodos ids user resolution =>
    refine .pure ?_
    split
    · exact asked_nil _ _
    · exact asked_singleton rfl
  | restoreTodos ids user =>
    refine .pure ?_
    split
    · exact asked_nil _ _
    · exact asked_singleton rfl
  | markAllDone user => exact .pure (asked_singleton rfl)

/-- **An event asks the ledger only for what the oracle was asked about.** -/
theorem traces_gather (event : Event) :
    Traces c db (gather c.noted settings event db) (gather c settings event db) (Asked event) := by
  refine .bind (traces_plan c db settings event) fun seen ops hops => ?_
  split
  · exact .bind (.beginBatch c db ops) fun _ _ _ => .pure (hops.append _)
  · exact .pure (hops.append _)

end Plan

end TodoLedger.Service
