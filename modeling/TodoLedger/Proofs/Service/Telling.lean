import TodoLedger.Proofs.Service.Acceptance

/-!
# Recipients by what collaborators tell

* `Shows w target visible`: the collaborators may do as they like, and fail, but if they answer, then
  just the users with `visible` see the target. `Tells w text mentions target visible`: also, the text
  refers to `mentions`.
* **Then the recipients on account of their part, of an assignment or of the text are known**
  (`Shows.ofUsers`, `Tells.ofAssignment`, `Tells.ofMentions`), whatever else the collaborators do.
* The built-in collaborators tell what the database says (`shows_builtIn`, `tells_builtIn`).
-/

namespace TodoLedger.Service

variable {σ : Type} {w : Witnesses (StateM σ)} {text : String} {mentions : Mentions UserId}
  {target : Target} {visible : UserId → Bool}

/-- Who sees a target, if the collaborators answer. -/
def Shows (w : Witnesses (StateM σ)) (target : Target) (visible : UserId → Bool) : Prop :=
  ∀ user, Gives (w.sees target user) (· = visible user)

namespace Shows

/-- Users are told apart. -/
theorem seers (h : Shows w target visible) (users : List UserId) :
    Gives (w.seers target users) (· = users.filter visible) := by
  induction users with
  | nil => exact .pure rfl
  | cons user rest ih =>
    refine .bind (h user) fun sees hsees => ?_
    refine .bind ih fun others hothers => .pure ?_
    rw [hsees, hothers, List.filter_cons]

/-- The users who see the target, each once. -/
theorem ofUsers (h : Shows w target visible) (action : Action) (users : List UserId) :
    Gives (Recipient.ofUsers w action users target)
      (· = ((ascending users).filter visible).map fun user => ⟨user, action⟩) := by
  refine .bind (h.seers _) fun seers hseers => .pure ?_
  rw [hseers]

end Shows

/-- To whom a text refers and who sees a target, if the collaborators answer. -/
structure Tells (w : Witnesses (StateM σ)) (text : String) (mentions : Mentions UserId)
    (target : Target) (visible : UserId → Bool) : Prop where
  references : Gives (w.references text) (· = mentions)
  sees : ∀ user, Gives (w.sees target user) (· = visible user)

namespace Tells

/-- The assignees who see the target, each once. -/
theorem ofAssignment (h : Tells w text mentions target visible) (assignees : List UserId) :
    Gives (Recipient.ofAssignment w assignees [] target)
      (· = ((ascending assignees).filter visible).map fun user => ⟨user, .assigned⟩) := by
  have hall : assignees.filter (!([] : List UserId).contains ·) = assignees :=
    List.filter_eq_self.2 fun _ _ => rfl
  rw [Recipient.ofAssignment, hall]
  exact Shows.ofUsers h.sees .assigned assignees

/-- The users to whom the text refers, without those to skip, who see the target. -/
theorem ofMentions (h : Tells w text mentions target visible) (skip : List UserId) :
    Gives (Recipient.ofMentions w ⟨text, none⟩ skip target)
      (· = ((mentions.all.filter (!skip.contains ·)).filter visible).map
        fun user => ⟨user, Recipient.mentionAction mentions user⟩) := by
  refine .bind h.references fun found hfound => ?_
  refine .bind (Shows.seers h.sees _) fun seers hseers => .pure ?_
  rw [hseers, hfound]

end Tells

/-- The built-in collaborators tell who sees a target as the database says. -/
theorem shows_builtIn (settings : Settings) (db : Database) (target : Target) :
    Shows (builtInWitnesses σ settings db) target
      fun user => db.canSee user target matches .ok true := by
  rintro user world sees hsees
  change (db.canSee user target).mapError Error.visibility = .ok sees at hsees
  beta_reduce
  cases hanswer : db.canSee user target with
  | error =>
    rw [hanswer] at hsees
    cases hsees
  | ok answer =>
    rw [hanswer] at hsees
    cases hsees
    cases sees <;> rfl

/-- **The built-in collaborators tell what the database says.** -/
theorem tells_builtIn (settings : Settings) (db : Database) (text : String) (target : Target) :
    Tells (builtInWitnesses σ settings db) text ((answers settings db).references text) target
      fun user => db.canSee user target matches .ok true := by
  refine ⟨?_, shows_builtIn settings db target⟩
  by_cases h : settings.Resolves text
  · rw [references_of_resolves h]
    exact .pure rfl
  · rw [references_of_not_resolves h]
    exact .throw _

end TodoLedger.Service
