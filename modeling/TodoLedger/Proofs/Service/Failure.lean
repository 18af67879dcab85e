import TodoLedger.Proofs.Service.Phases

/-!
# Events that fail leave no trace

* An event that fails changes neither a table nor a counter of to-dos, whatever the collaborators do
  (`handle_of_error`).
* `accepted events results`: the events that were handled with success, each with its time.
* Where the collaborators remember nothing, what an event does depends on the database only, so a
  replay without the events that fail gives the same (`replay_accepted`).
* **Both together** (`failure_leaves_no_trace`).
-/

namespace TodoLedger.Service

open Ledger (Op Effect)

/-! ### One event -/

/-- Neither the tables nor the counters of to-dos differ. -/
structure State.SameLedger (s t : State) : Prop where
  database : t.database = s.database
  created : t.metrics.created = s.metrics.created
  resolved : t.metrics.resolved = s.metrics.resolved
  restored : t.metrics.restored = s.metrics.restored

/-- Counting an event changes no table and counts no to-do. -/
theorem State.sameLedger_countEvent (s : State) (kind : EventKind) (succeeded : Bool) :
    s.SameLedger (s.countEvent kind succeeded) := by
  rw [countEvent, Metrics.countEvent]
  split
  · exact ⟨rfl, rfl, rfl, rfl⟩
  · split <;> exact ⟨rfl, rfl, rfl, rfl⟩

/-- What is reported as a failure changed no table and counted no to-do. -/
theorem report_of_error {now : Int64} {event : Event} {gathered : Except Error (List Op)}
    {s : State} {error : Error} (h : (report event (conclude now gathered s)).1 = .error error) :
    s.SameLedger (report event (conclude now gathered s)).2 := by
  cases hresult : (conclude now gathered s).1 with
  | ok effects =>
    rw [report, hresult] at h
    cases h
  | error error =>
    rw [report, conclude_of_error now hresult]
    exact s.sameLedger_countEvent _ _

/-- **An event that fails changes no table and counts no to-do**, whatever the collaborators do. -/
theorem handle_of_error {σ : Type} {c : Collaborators (StateM σ)} {settings : Settings}
    {now : Int64} {event : Event} {s : State} {world : σ} {error : Error}
    (h : ((handle c settings now event s).run world).1.1 = .error error) :
    s.SameLedger ((handle c settings now event s).run world).1.2 := by
  rw [run_handle] at h ⊢
  exact report_of_error h

/-! ### Many events -/

/-- The events that were handled with success, each with the time at which it was handled. -/
def accepted (events : List (Int64 × Event)) (results : List (Except Error Outcome)) :
    List (Int64 × Event) :=
  ((events.zip results).filter (·.2.isOk)).map (·.1)

/-- An event that succeeds is kept. -/
theorem accepted_cons_ok (event : Int64 × Event) (rest : List (Int64 × Event)) (outcome : Outcome)
    (results : List (Except Error Outcome)) :
    accepted (event :: rest) (.ok outcome :: results) = event :: accepted rest results := rfl

/-- An event that fails is dropped. -/
theorem accepted_cons_error (event : Int64 × Event) (rest : List (Int64 × Event)) (error : Error)
    (results : List (Except Error Outcome)) :
    accepted (event :: rest) (.error error :: results) = accepted rest results := rfl

section Forgetful

variable (c : Collaborators Id) (settings : Settings) (now : Int64)

/-- An event does the same wherever the database is the same. -/
theorem handle_congr (event : Event) {s t : State} (h : s.database = t.database) :
    (handle c settings now event s).1 = (handle c settings now event t).1 ∧
      (handle c settings now event s).2.database = (handle c settings now event t).2.database := by
  rw [handle_eq, handle_eq, h]
  obtain ⟨hresult, hdatabase⟩ := conclude_congr now h (gather c settings event t.database).run
  exact ⟨congrArg (Except.map outcomeOf) hresult, hdatabase⟩

/-- An event that fails leaves the database as it was. -/
theorem handle_database_of_error {event : Event} {s : State} {error : Error}
    (h : (handle c settings now event s).1 = .error error) :
    (handle c settings now event s).2.database = s.database := by
  rw [handle_eq] at h ⊢
  exact (report_of_error h).database

/-- A replay handles its first event, and then the others. -/
theorem replay_cons (event : Event) (rest : List (Int64 × Event)) (s : State) :
    replay c settings ((now, event) :: rest) s =
      ((handle c settings now event s).1 ::
          (replay c settings rest (handle c settings now event s).2).1,
        (replay c settings rest (handle c settings now event s).2).2) := rfl

/-- **A replay without the events that fail gives the same results and the same database**, also
from another state with the same database. -/
theorem replay_accepted (events : List (Int64 × Event)) {s t : State}
    (h : s.database = t.database) :
    let first := replay c settings events s
    let again := replay c settings (accepted events first.1) t
    first.1.length = events.length ∧ again.1 = first.1.filter (·.isOk) ∧
      again.2.database = first.2.database := by
  induction events generalizing s t with
  | nil => exact ⟨rfl, rfl, h.symm⟩
  | cons timed rest ih =>
    obtain ⟨now, event⟩ := timed
    rw [replay_cons]
    cases hresult : (handle c settings now event s).1 with
    | error error =>
      have hdatabase := handle_database_of_error c settings now hresult
      obtain ⟨hlength, hresults, hafter⟩ := ih (hdatabase.trans h)
      refine ⟨congrArg (· + 1) hlength, ?_, ?_⟩
      · rw [accepted_cons_error, hresults]
        rfl
      · rw [accepted_cons_error]
        exact hafter
    | ok outcome =>
      obtain ⟨hsame, hdatabase⟩ := handle_congr c settings now event h
      obtain ⟨hlength, hresults, hafter⟩ := ih hdatabase
      refine ⟨congrArg (· + 1) hlength, ?_, ?_⟩
      · rw [accepted_cons_ok, replay_cons, ← hsame, hresult, hresults]
        rfl
      · rw [accepted_cons_ok, replay_cons]
        exact hafter

end Forgetful

/-! ### Both -/

/-- **An event that fails leaves no trace**: neither a table nor a counter of to-dos changes,
whatever the collaborators do; and where they remember nothing, the other events of a replay, each
at its own time, give the same results and the same database without it. -/
theorem failure_leaves_no_trace :
    (∀ {σ : Type} (c : Collaborators (StateM σ)) (settings : Settings) (now : Int64) (event : Event)
      (s : State) (world : σ) (error : Error),
      ((handle c settings now event s).run world).1.1 = .error error →
        s.SameLedger ((handle c settings now event s).run world).1.2) ∧
    ∀ (c : Collaborators Id) (settings : Settings) (events : List (Int64 × Event)) (s : State),
      let first := replay c settings events s
      let again := replay c settings (accepted events first.1) s
      first.1.length = events.length ∧ again.1 = first.1.filter (·.isOk) ∧
        again.2.database = first.2.database :=
  ⟨fun _ _ _ _ _ _ _ h => handle_of_error h, fun c settings events _ =>
    replay_accepted c settings events rfl⟩

/-- An issue for ada and for a user who does not exist: the batch fails at its second op. -/
theorem failure_leaves_no_trace_foreignKey :
    let s : State :=
      { database :=
          { users := [⟨1, "ada", false, 0, 0⟩, ⟨2, "bob", false, 0, 0⟩]
            projects := [⟨1, "engine", "public", .integer 0⟩] } }
    let c : Collaborators (StateM Unit) :=
      { Collaborators.builtIn {} with canSee := fun _ _ _ => pure true }
    let d : Collaborators Id := { Collaborators.builtIn {} with canSee := fun _ _ _ => pure true }
    let bad : Event := .newIssue { id := 5, projectId := 1, authorId := 2, assignees := [1, 9] } 2
    let good : Event := .markTodo (.issue { id := 5, projectId := 1, authorId := 2 }) 1
    ((handle c {} 7 bad s).run ()).1.1 = .error (.store ⟨[.insertTodo 9], .foreignKey⟩) ∧
      s.SameLedger ((handle c {} 7 bad s).run ()).1.2 ∧
      accepted [(7, bad), (8, good)] (replay d {} [(7, bad), (8, good)] s).1 = [(8, good)] ∧
      (replay d {} [(8, good)] s).2.database =
        (replay d {} [(7, bad), (8, good)] s).2.database := by
  intro s c d bad good
  have herror : ((handle c {} 7 bad s).run ()).1.1 =
      .error (.store ⟨[.insertTodo 9], .foreignKey⟩) := by decide +kernel
  have haccepted : accepted [(7, bad), (8, good)] (replay d {} [(7, bad), (8, good)] s).1 =
      [(8, good)] := by decide +kernel
  obtain ⟨_, _, hdatabase⟩ := failure_leaves_no_trace.2 d {} [(7, bad), (8, good)] s
  rw [haccepted] at hdatabase
  exact ⟨herror, failure_leaves_no_trace.1 c {} 7 bad s () _ herror, haccepted, hdatabase⟩

end TodoLedger.Service
