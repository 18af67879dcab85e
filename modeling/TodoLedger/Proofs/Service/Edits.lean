import TodoLedger.Proofs.Mention.RollCall
import TodoLedger.Proofs.Service.Acceptance
import TodoLedger.Proofs.Service.Repetition
import TodoLedger.Proofs.Uniqueness

/-!
# Edits of a text

A text that is edited gives to-dos to those to whom it did not refer before. The earlier text need not
be known for that, as long as the ledger knows whom it asked.

* `RunsAlike`: two batches fail alike, or leave the same, and the second has the ops and the effects of
  the first without new to-dos that came to nothing.
* A batch runs like the one without the to-dos that rows stand in the way of (`runsAlike_filter`), and
  nobody sees which one it was (`report_conclude_eq`).
* With the built-in collaborators the recipients of an edit are those of the text alone to whom the
  earlier text does not refer (`Answers.recipients_edited`), if neither text has too many handles
  (`gather_edited`).
* **If all to whom the earlier text refers are still asked to look at the target, an edit ends alike
  whether or not the earlier text is known, unless that text has too many handles**
  (`handle_edited_eq_iff`). If it has, an edit can fail for the earlier text alone
  (`handle_edited_ne`).
-/

namespace TodoLedger

open Ledger (Op Effect Run blocks)

variable {db : Database} {now : Int64}

/-! ### New to-dos that come to nothing -/

namespace Ledger

/-- The second ops and effects are the first ones without new to-dos that came to nothing. -/
inductive LeavesOut : List Op → List Effect → List Op → List Effect → Prop
  | nil : LeavesOut [] [] [] []
  | idle {todo : NewTodo} {ops ops' : List Op} {effects effects' : List Effect} :
    LeavesOut ops effects ops' effects' →
    LeavesOut (.upsert todo :: ops) (.created none :: effects) ops' effects'
  | same {op : Op} {effect : Effect} {ops ops' : List Op} {effects effects' : List Effect} :
    LeavesOut ops effects ops' effects' →
    LeavesOut (op :: ops) (effect :: effects) (op :: ops') (effect :: effects')

/-- Both runs fail alike, or leave the same with the second ops as with the first. -/
inductive RunsAlike (ops ops' : List Op) : Except Error Run → Except Error Run → Prop
  | failed {error : Error} : RunsAlike ops ops' (.error error) (.error error)
  | ran {database : Database} {effects effects' : List Effect} {touched : List UserId} :
    LeavesOut ops effects ops' effects' →
    RunsAlike ops ops' (.ok ⟨database, effects, touched⟩) (.ok ⟨database, effects', touched⟩)

/-- New to-dos leave the rows that are there. -/
theorem mem_of_upsert {todo : NewTodo} {change : Change}
    (h : step now (.upsert todo) db = .ok change) : ∀ row ∈ db.todos, row ∈ change.database.todos := by
  intro row hrow
  rw [step, upsert] at h
  split at h
  · cases h
    exact hrow
  · split at h
    · cases h
    · split at h
      · cases h
        exact List.mem_append_left _ hrow
      · cases h

namespace RunsAlike

variable {ops ops' : List Op} {first second : Except Error Run}

/-- The same op before both. -/
theorem cons (op : Op) (change : Change) (h : RunsAlike ops ops' first second) :
    RunsAlike (op :: ops) (op :: ops')
      (do let after ← first
          return ⟨after.database, change.effect :: after.effects, change.touched ++ after.touched⟩)
      (do let after ← second
          return ⟨after.database, change.effect :: after.effects, change.touched ++ after.touched⟩) := by
  cases h with
  | failed => exact .failed
  | ran hout => exact .ran (.same hout)

/-- A new to-do that comes to nothing before the first. -/
theorem idle (todo : NewTodo) (h : RunsAlike ops ops' first second) :
    RunsAlike (.upsert todo :: ops) ops'
      (do let after ← first
          return ⟨after.database, .created none :: after.effects, [] ++ after.touched⟩) second := by
  cases h with
  | failed => exact .failed
  | ran hout => exact .ran (.idle hout)

end RunsAlike

/-- **A batch of new to-dos runs like the one without those that a row stands in the way of.** -/
theorem runsAlike_filter {keep : NewTodo → Bool} {todos : List NewTodo}
    (h : ∀ todo ∈ todos, keep todo = false → db.todos.any (blocks · todo) = true) :
    RunsAlike (todos.map .upsert) ((todos.filter keep).map .upsert)
      (run now (todos.map .upsert) db) (run now ((todos.filter keep).map .upsert) db) := by
  induction todos generalizing db with
  | nil => exact .ran .nil
  | cons todo rest ih =>
    obtain ⟨htodo, hrest⟩ := List.forall_mem_cons.1 h
    by_cases hkeep : keep todo = true
    · rw [List.filter_cons_of_pos hkeep, List.map_cons, List.map_cons, run, run]
      cases hstep : step now (.upsert todo) db with
      | error error => exact .failed
      | ok change =>
        -- Rows that stand in the way stay there.
        have hblocked : ∀ other ∈ rest, keep other = false →
            change.database.todos.any (blocks · other) = true := by
          intro other hother hleft
          obtain ⟨row, hrow, hblocks⟩ := List.any_eq_true.1 (hrest other hother hleft)
          exact List.any_eq_true.2 ⟨row, mem_of_upsert hstep row hrow, hblocks⟩
        exact (ih hblocked).cons _ change
    · have hidle := settled_upsert (htodo (Bool.eq_false_iff.2 hkeep)) now
      rw [List.filter_cons_of_neg hkeep, List.map_cons, run, hidle]
      exact (ih hrest).idle todo

/-- A new to-do fails in the store only. -/
theorem exists_fault_of_upsert {todo : NewTodo} {error : Error}
    (h : step now (.upsert todo) db = .error error) : ∃ fault, error = .store fault := by
  rw [step, upsert] at h
  split at h
  · cases h
  · split at h
    · exact ⟨_, (Except.error.inj h).symm⟩
    · split at h
      · cases h
      · exact ⟨_, (Except.error.inj h).symm⟩

/-- A batch of new to-dos fails in the store only. -/
theorem exists_fault_of_run {todos : List NewTodo} {error : Error}
    (h : run now (todos.map .upsert) db = .error error) : ∃ fault, error = .store fault := by
  induction todos generalizing db with
  | nil => cases h
  | cons todo rest ih =>
    rw [List.map_cons, run] at h
    cases hstep : step now (.upsert todo) db with
    | error flaw =>
      rw [hstep] at h
      obtain rfl := Except.error.inj h
      exact exists_fault_of_upsert hstep
    | ok change =>
      refine @ih change.database ?_
      rw [hstep] at h
      change (run now (rest.map .upsert) change.database >>= _) = _ at h
      cases hrest : run now (rest.map .upsert) change.database with
      | error flaw =>
        rw [hrest] at h
        exact h
      | ok after =>
        rw [hrest] at h
        cases h

end Ledger

/-- **The recipients after an edit are those of the text alone to whom the earlier text does not
refer.** -/
theorem Answers.recipients_edited (a : Answers) (text previous : String) (skip : List UserId)
    (target : Target) :
    a.recipients ⟨text, some previous⟩ skip target = (a.recipients ⟨text, none⟩ skip target).filter
      fun recipient => !(a.references previous).all.contains recipient.userId := by
  have hcandidates : a.candidates ⟨text, some previous⟩ skip =
      (a.candidates ⟨text, none⟩ skip).filter (!(a.references previous).all.contains ·) := by
    simp only [candidates, earlier, Option.elim_none, Option.elim_some, List.append_nil,
      List.filter_filter, List.contains_append, Bool.not_or, Bool.and_comm]
  rw [recipients, hcandidates, recipients, List.filter_map, List.filter_filter]
  simp only [List.filter_filter, Bool.and_comm, Function.comp_def]

namespace Service

open Ledger (LeavesOut RunsAlike)

/-- What came to nothing is no part of the outcome. -/
theorem outcomeOf_eq {ops ops' : List Op} {effects effects' : List Effect}
    (h : LeavesOut ops effects ops' effects') : outcomeOf effects = outcomeOf effects' := by
  induction h with
  | nil => rfl
  | idle _ ih =>
    rw [← ih]
    rfl
  | @same _ effect _ _ _ _ _ ih =>
    rw [outcomeOf, outcomeOf, Outcome.mk.injEq] at ih ⊢
    simp only [List.filterMap_cons, List.flatMap_cons, ih, and_self]

/-- What came to nothing is not counted. -/
theorem countEffects_eq {ops ops' : List Op} {effects effects' : List Effect}
    (h : LeavesOut ops effects ops' effects') (m : Metrics) :
    m.countEffects ops effects = m.countEffects ops' effects' := by
  induction h generalizing m with
  | nil => rfl
  | idle _ ih => exact ih m
  | same _ ih => exact ih _

/-- **Nobody sees which of two batches it was that run alike.** -/
theorem report_conclude_eq {ops ops' : List Op} {s : State} (event : Event)
    (h : RunsAlike ops ops' (Ledger.run now ops s.database) (Ledger.run now ops' s.database)) :
    report event (conclude now (.ok ops) s) = report event (conclude now (.ok ops') s) := by
  rw [conclude, conclude, Ledger.apply, Ledger.apply]
  generalize Ledger.run now ops s.database = first at h
  generalize Ledger.run now ops' s.database = second at h
  cases h with
  | failed => rfl
  | @ran database effects effects' touched hout =>
    change report event (.ok effects, ⟨_, s.metrics.countEffects ops effects⟩) =
      report event (.ok effects', ⟨_, s.metrics.countEffects ops' effects'⟩)
    rw [report, report, countEffects_eq hout]
    exact congrArg (·, _) (congrArg Except.ok (outcomeOf_eq hout))

/-! ### What can be edited -/

/-- What has a text that can be edited. -/
inductive Edited where
  | issue (issue : Issue)
  | mergeRequest (mr : MergeRequest)
  | note (note : Note)

namespace Edited

/-- The target of the to-dos. -/
def target : Edited → Target
  | .issue it => .issue it
  | .mergeRequest mr => .mergeRequest mr
  | .note it => it.noteable

/-- The text as it is now. -/
def text : Edited → String
  | .issue it => (Target.issue it).text
  | .mergeRequest mr => (Target.mergeRequest mr).text
  | .note it => it.body

/-- The note to which the to-dos belong. -/
def noteId : Edited → Option UInt64
  | .issue _ | .mergeRequest _ => none
  | .note it => some it.id

/-- True of what can give to-dos. -/
def givesTodos : Edited → Bool
  | .issue _ | .mergeRequest _ => true
  | .note it => it.canCreateTodo

/-- The event of the edit. -/
def event (edited : Edited) (user : UserId) (previous : Option String) (skip : List UserId) : Event :=
  match edited with
  | .issue it => .updateIssue it user previous skip
  | .mergeRequest mr => .updateMergeRequest mr user previous skip
  | .note it => .updateNote it user previous skip

end Edited

section Edit

variable {n : Type → Type} [Monad n]

/-- **All edits are planned alike.** -/
theorem plan_event (w : Witnesses n) (settings : Settings) (edited : Edited) (user : UserId)
    (previous : Option String) (skip : List UserId) :
    plan w settings (edited.event user previous skip) =
      if edited.givesTodos then do
        validated edited.target
        let mentioned ← Recipient.ofMentions w ⟨edited.text, previous⟩ skip edited.target
        return upserts edited.target user edited.noteId mentioned
      else pure [] := by
  cases edited with
  | issue | mergeRequest => rfl
  | note note =>
    change planUpdateNote w note user previous skip = if note.canCreateTodo then _ else _
    rw [planUpdateNote]
    cases note.canCreateTodo <;> rfl

/-- A text refers to the users of the database whose handles it mentions. -/
theorem refersTo_answers {settings : Settings} {text : String} {user : UserId} :
    (answers settings db).RefersTo text user ↔
      ∃ handle ∈ (Mention.scan settings.ignoreCodeBlocks text).all, db.userId? handle = some user :=
  Iff.rfl

end Edit

/-! ### The earlier text -/

/-- All to whom a text refers, who see the target and are not to be skipped, are asked to look at it
because they were mentioned or addressed. -/
def AllAsked (a : Answers) (db : Database) (text : String) (skip : List UserId) (target : Target) :
    Prop :=
  ∀ user, a.RefersTo text user → a.canSee user target = .ok true → user ∉ skip →
    0 < db.pendingFor user target.reference [.mentioned, .directlyAddressed]

/-- Where no handle of a text is that of a user there is nobody to ask. -/
theorem allAsked_of_unknown {settings : Settings} {text : String}
    (h : ∀ handle ∈ (Mention.scan settings.ignoreCodeBlocks text).all, db.userId? handle = none)
    (skip : List UserId) (target : Target) :
    AllAsked (answers settings db) db text skip target := by
  intro user hrefers _ _
  obtain ⟨handle, hhandle, huser⟩ := refersTo_answers.1 hrefers
  rw [h handle hhandle] at huser
  cases huser

/-- The to-dos that the earlier text keeps an edit from giving come to nothing. -/
theorem runsAlike_upserts (now : Int64) {a : Answers} {target : Target} {previous : String}
    {skip : List UserId} (hasked : AllAsked a db previous skip target) (text : String)
    (author : UserId) (noteId : Option UInt64) :
    let ops := upserts target author noteId (a.recipients ⟨text, none⟩ skip target)
    let ops' := upserts target author noteId (a.recipients ⟨text, some previous⟩ skip target)
    RunsAlike ops ops' (Ledger.run now ops db) (Ledger.run now ops' db) := by
  intro ops ops'
  let todos := (a.recipients ⟨text, none⟩ skip target).map (newTodo target author noteId)
  let keep (todo : NewTodo) : Bool := !(a.references previous).all.contains todo.userId
  have hops : ops = todos.map .upsert := upserts_eq target author noteId _
  have hops' : ops' = (todos.filter keep).map .upsert := by
    simp only [ops', todos]
    rw [a.recipients_edited, upserts_eq, List.filter_map]
    rfl
  rw [hops, hops']
  -- Whom the earlier text keeps from a to-do is asked already.
  refine Ledger.runsAlike_filter fun todo htodo hleft => ?_
  obtain ⟨recipient, hrecipient, rfl⟩ := List.mem_map.1 htodo
  obtain ⟨hcandidate, hsees, haction⟩ := a.mem_recipients.1 hrecipient
  have hbefore : a.RefersTo previous recipient.userId := by
    rw [← a.mem_all_references]
    simpa [keep, newTodo] using hleft
  refine (any_blocks_iff (by decide) ?_).2 (hasked _ hbefore hsees hcandidate.kept)
  rw [newTodo, haction, Answers.reason]
  split <;> simp

/-! ### Edits that are handled -/

/-- What an edit asks for, or why it fails: a new to-do for each recipient, if no text has too many
handles. -/
def Edited.asks (edited : Edited) (settings : Settings) (db : Database) (user : UserId)
    (previous : Option String) (skip : List UserId) : Except Error (List Op) :=
  if settings.Takes ⟨edited.text, previous⟩ then
    .ok (upserts edited.target user edited.noteId
      ((answers settings db).recipients ⟨edited.text, previous⟩ skip edited.target))
  else .error (.references tooManyHandles)

section Grounded

variable {n : Type → Type} [Monad n] [LawfulMonad n] {settings : Settings} {edited : Edited}
  (hdb : WellFormed db) (htarget : edited.target.IsGrounded db)
  (hgives : edited.givesTodos = true) (user : UserId) (previous : Option String)
  (skip : List UserId)

include hdb htarget hgives

/-- **With the built-in collaborators this is what is gathered for an edit.** -/
theorem gather_edited :
    gather (Collaborators.builtIn settings : Collaborators n) settings
        (edited.event user previous skip) db =
      ExceptT.mk (pure (edited.asks settings db user previous skip)) := by
  -- The project exists, so it is known of everybody whether they see the target.
  have hknown : ∀ other, ∃ sees, (answers settings db).canSee other edited.target = .ok sees :=
    Database.exists_canSee hdb htarget.project
  have hvalidated : (validated edited.target : ExceptT Error n Unit) = pure () := by
    rw [validated, htarget.valid]
  rw [gather_of_taken _ settings (fun _ => rfl), plan_event, hgives, if_pos rfl, hvalidated,
    pure_bind]
  rw [ofMentions_builtIn, Edited.asks]
  split
  · rw [Answers.ofMentions_eq_pure _ fun other _ => hknown other, pure_bind]
    rfl
  · rw [Answers.throw_bind]
    rfl

/-- An edit is its batch. -/
theorem handle_edited {s : State} (hs : s.database = db) (now : Int64) :
    handle (Collaborators.builtIn settings : Collaborators n) settings now
        (edited.event user previous skip) s =
      pure (report (edited.event user previous skip)
        (conclude now (edited.asks settings db user previous skip) s)) := by
  rw [handle_eq, hs, gather_edited hdb htarget hgives]
  exact map_pure _ _

/-- **An edit is refused on account of its texts exactly if one has too many handles.** -/
theorem handle_edited_refused_iff {s : State} (hs : s.database = db) (now : Int64) :
    (handle (Collaborators.builtIn settings : Collaborators Id) settings now
        (edited.event user previous skip) s).1 = .error (.references tooManyHandles) ↔
      ¬ settings.Takes ⟨edited.text, previous⟩ := by
  rw [handle_edited hdb htarget hgives user previous skip hs, Edited.asks]
  split
  · next htaken =>
    refine iff_of_false (fun herror => ?_) (not_not_intro htaken)
    -- What the batch makes of it is an error of the store, if it is one.
    rw [upserts_eq, conclude, Ledger.apply] at herror
    cases hrun : Ledger.run now
        ((((answers settings db).recipients ⟨edited.text, previous⟩ skip edited.target).map
          (newTodo edited.target user edited.noteId)).map .upsert) s.database with
    | error flaw =>
      obtain ⟨fault, rfl⟩ := Ledger.exists_fault_of_run hrun
      rw [hrun] at herror
      cases herror
    | ok done =>
      rw [hrun] at herror
      cases herror
  · next htaken => exact iff_of_true rfl htaken

omit previous in
/-- **If the mentions can be looked for in either way or in neither, an edit ends alike in both.** -/
theorem handle_edited_congr {s : State} (hs : s.database = db) (now : Int64) {previous : String}
    (hasked : AllAsked (answers settings db) db previous skip edited.target)
    (htaken : settings.Takes ⟨edited.text, some previous⟩ ↔ settings.Takes ⟨edited.text, none⟩) :
    handle (Collaborators.builtIn settings : Collaborators n) settings now
        (edited.event user (some previous) skip) s =
      handle (.builtIn settings) settings now (edited.event user none skip) s := by
  subst hs
  have hreport (done : Except Error (List Effect) × State) :
      report (edited.event user (some previous) skip) done =
        report (edited.event user none skip) done := by
    cases edited <;> rfl
  rw [handle_edited hdb htarget hgives user _ skip rfl, hreport,
    handle_edited hdb htarget hgives user _ skip rfl, Edited.asks, Edited.asks]
  by_cases hresolves : settings.Takes ⟨edited.text, none⟩
  · rw [if_pos hresolves, if_pos (htaken.2 hresolves)]
    have halike := runsAlike_upserts now hasked edited.text user edited.noteId
    exact congrArg pure (report_conclude_eq _ halike).symm
  · rw [if_neg hresolves, if_neg (mt htaken.1 hresolves)]

end Grounded

/-- **An edit ends alike whether or not the earlier text is known**, if all to whom the earlier text
refers are still asked to look at the target, exactly if that text has not too many handles, or the
edit is refused for the current text in either way. With too many handles in the earlier text alone
it is refused where that text is known. With too many handles in both it is refused, unless the
earlier text is known and only boxes were ticked. -/
theorem handle_edited_eq_iff (calls : List Call) (settings : Settings) (now : Int64)
    (edited : Edited) (user : UserId) (previous : String) (skip : List UserId)
    (hgives : edited.givesTodos = true)
    (htarget : edited.target.IsGrounded (State.after calls).database)
    (hasked : AllAsked (answers settings (State.after calls).database) (State.after calls).database
      previous skip edited.target) :
    let ends (n : Type → Type) [Monad n] (previous : Option String) :
        n (Except Error Outcome × State) :=
      handle (.builtIn settings) settings now (edited.event user previous skip) (State.after calls)
    let ticked := TaskList.onlyStatesChanged previous edited.text = true
    let alike := settings.Resolves previous ∨ ¬ settings.Resolves edited.text ∧ ¬ ticked
    (alike → ∀ (n : Type → Type) [Monad n] [LawfulMonad n], ends n (some previous) = ends n none) ∧
      ((ends Id (some previous)).1 = (ends Id none).1 → alike) ∧
      ((ends Id (some previous)).1 = .error (.references tooManyHandles) ↔
        ¬ ticked ∧ ¬ (settings.Resolves previous ∧ settings.Resolves edited.text)) ∧
      ((ends Id none).1 = .error (.references tooManyHandles) ↔ ¬ settings.Resolves edited.text) := by
  intro ends ticked alike
  have hdb : WellFormed (State.after calls).database := wellFormed_after calls
  have hrefused (previous : Option String) :
      (ends Id previous).1 = .error (.references tooManyHandles) ↔
        ¬ settings.Takes ⟨edited.text, previous⟩ :=
    handle_edited_refused_iff hdb htarget hgives user previous skip rfl now
  refine ⟨fun halike n _ _ => ?_, fun hsame => ?_, ?_, ?_⟩
  · exact handle_edited_congr hdb htarget hgives user skip rfl now hasked
      (Settings.takes_iff_takes_iff.2 halike)
  · refine Settings.takes_iff_takes_iff.1 (not_iff_not.1 ?_)
    rw [← hrefused, ← hrefused]
    exact iff_of_eq (congrArg (· = _) hsame)
  · rw [hrefused, Settings.takes_edited_iff, not_or]
  · rw [hrefused, Settings.takes_new_iff]

/-- Bob is still asked, so that only Carl gets a to-do, in either way. -/
theorem handle_edited_eq_iff_still_asked :
    let c : Collaborators (StateM Unit) := .builtIn {}
    let issue : Issue := { id := 5, projectId := 1, authorId := 1, description := "see @bob" }
    let calls : List Call := [.createUser "ada" false, .createUser "bob" false,
      .createUser "carl" false, .createProject "engine" .everyone false,
      .handle ⟨Unit, c, ()⟩ {} 7 (.newIssue issue 1)]
    let edited : Edited := .issue { issue with description := "see @bob, @carl" }
    (handle (.builtIn {} : Collaborators Id) {} 8 (edited.event 1 (some "see @bob") [])
        (State.after calls) =
      handle (.builtIn {} : Collaborators Id) {} 8 (edited.event 1 none []) (State.after calls)) ∧
    (handle (.builtIn {} : Collaborators Id) {} 8 (edited.event 1 none [])
      (State.after calls)).1 = .ok ⟨[2], [], []⟩ := by
  intro c issue calls edited
  have htarget : edited.target.IsGrounded (State.after calls).database :=
    ⟨by decide +kernel, ⟨1, "engine", .everyone, false⟩, by decide +kernel⟩
  have hasked : AllAsked (answers {} (State.after calls).database) (State.after calls).database
      "see @bob" [] edited.target := by
    intro user hrefers _ _
    obtain ⟨handle, hhandle, huser⟩ := refersTo_answers.1 hrefers
    have hhandles : (Mention.scan true "see @bob").all = ["bob"] := by decide +kernel
    have hbob : (State.after calls).database.userId? "bob" = some 2 := by decide +kernel
    rw [hhandles, List.mem_singleton] at hhandle
    rw [hhandle, hbob] at huser
    obtain rfl := Option.some.inj huser
    decide +kernel
  have hresolves : Settings.Resolves {} "see @bob" := by decide +kernel
  exact ⟨(handle_edited_eq_iff calls {} 8 edited 1 "see @bob" [] rfl htarget hasked).1
    (.inl hresolves) Id, by decide +kernel⟩

/-- A roll call of too many users. -/
theorem not_resolves_rollCall (settings : Settings) {handles : List String}
    (hshape : ∀ handle ∈ handles, Mention.IsHandle handle.toList) (hnodup : handles.Nodup)
    (hmany : Database.maxVariables < handles.length) :
    ¬ settings.Resolves (Mention.rollCall handles) :=
  not_le_of_gt (hmany.trans_le (Mention.length_le_scan_rollCall _ hshape hnodup))

/-- **An edit can fail for the earlier text alone**: that text calls all words of three out of 32
letters, none of which is the handle of a user. -/
theorem handle_edited_ne :
    ¬ ∀ (calls : List Call) (settings : Settings) (now : Int64) (edited : Edited) (user : UserId)
      (previous : String) (skip : List UserId),
      edited.givesTodos = true → edited.target.IsGrounded (State.after calls).database →
      AllAsked (answers settings (State.after calls).database) (State.after calls).database previous
        skip edited.target →
      (handle (.builtIn settings : Collaborators Id) settings now
          (edited.event user (some previous) skip) (State.after calls)).1 =
        (handle (.builtIn settings : Collaborators Id) settings now (edited.event user none skip)
          (State.after calls)).1 := by
  intro h
  let calls : List Call := [.createUser "zoe" false, .createProject "engine" .everyone false]
  let edited : Edited := .issue { id := 5, projectId := 1, authorId := 1, description := "fixed" }
  let letters := "0123456789abcdefghijklmnopqrstuv".toList
  let words := Mention.threeLetterWords letters
  have hshape : ∀ word ∈ words, Mention.IsHandle word.toList := fun word hword =>
    Mention.isHandle_of_mem_threeLetterWords (List.all_eq_true.1 (by decide +kernel)) hword
  have hnodup : words.Nodup := Mention.nodup_threeLetterWords (by decide +kernel)
  have hlength : words.length = 32 * (32 * 32) := Mention.length_threeLetterWords letters
  have hprevious : ¬ Settings.Resolves {} (Mention.rollCall words) :=
    not_resolves_rollCall {} hshape hnodup (hlength ▸ by decide)
  have htarget : edited.target.IsGrounded (State.after calls).database :=
    ⟨by decide +kernel, ⟨1, "engine", .everyone, false⟩, by decide +kernel⟩
  have hzoe : "zoe" ∉ words := by
    intro hword
    obtain ⟨a, ha, _, _, _, _, hletters⟩ := Mention.exists_of_mem_threeLetterWords hword
    obtain rfl : 'z' = a := List.head_eq_of_cons_eq hletters
    exact absurd ha (by decide +kernel)
  have husers : (State.after calls).database.users = [⟨1, "zoe", false, 0, 0⟩] := by decide +kernel
  have hnobody : AllAsked (answers {} (State.after calls).database) (State.after calls).database
      (Mention.rollCall words) [] edited.target := by
    refine allAsked_of_unknown (fun handle hhandle => ?_) [] edited.target
    have hword : handle ∈ words := (Mention.mem_scan_rollCall _ hshape).1 hhandle
    have hother : "zoe" ≠ handle := fun heq => hzoe (heq ▸ hword)
    rw [Database.userId?, husers, List.find?_singleton, if_neg (by simpa using hother),
      Option.map_none]
  have hcurrent : Settings.Resolves {} edited.text := by decide +kernel
  have hrefused (previous : Option String) :
      (handle (.builtIn {} : Collaborators Id) {} 8 (edited.event 1 previous [])
          (State.after calls)).1 = .error (.references tooManyHandles) ↔
        ¬ Settings.Takes {} ⟨edited.text, previous⟩ :=
    handle_edited_refused_iff (wellFormed_after calls) htarget rfl 1 previous [] rfl 8
  -- If it were refused in neither way or in both, one of the texts would be another.
  have hsame := h calls {} 8 edited 1 (Mention.rollCall words) [] rfl htarget hnobody
  have htaken : Settings.Takes {} ⟨edited.text, some (Mention.rollCall words)⟩ ↔
      Settings.Takes {} ⟨edited.text, none⟩ := by
    rw [← not_iff_not, ← hrefused, ← hrefused, hsame]
  rcases Settings.takes_iff_takes_iff.1 htaken with hresolves | ⟨hneither, -⟩
  · exact hprevious hresolves
  · exact hneither hcurrent

end Service

end TodoLedger
