import TodoLedger.Proofs.Service.Phases

/-!
# How handled events are recorded

* `Metrics.series` is the number that the counters hold under a name and labels, and
  `Metrics.total` the sum of all numbers under a name. Where samples have distinct labels, a series
  is the value of its sample (`series_of_samples`).
* The name under which an event is recorded is its label, except that requests by id are not
  recorded (`recordedAs?_eq`).
* **An event that is handled counts once under its label and its status, and under nothing else**,
  unless it is a request by id (`eventsTotal_handle`); such a request is not counted at all, so the
  rule does not hold of all events (`eventsTotal_misses_resolveTodos`).
-/

namespace TodoLedger

namespace Metrics

variable {m m' : Metrics}

/-! ### Series -/

/-- The samples of the counters of one name. -/
def samples (m : Metrics) (name : String) : List Sample :=
  (m.families.filter (·.name = name)).flatMap (·.samples)

/-- The number under a name and labels; zero if nothing was counted there. -/
def series (m : Metrics) (name : String) (labels : List (String × String)) : Nat :=
  (((m.samples name).filter (·.labels = labels)).map (·.value)).sum

/-- The sum of all numbers under a name. -/
def total (m : Metrics) (name : String) : Nat := ((m.samples name).map (·.value)).sum

/-- Where samples have distinct labels, a series is the value of its sample. -/
theorem series_of_samples {κ : Type} {name : String} {keys : List κ}
    {label : κ → List (String × String)} {value : κ → Nat}
    (hsamples : m.samples name = keys.map fun key => ⟨label key, value key⟩)
    (hlabels : (keys.map label).Nodup) {key : κ} (hkey : key ∈ keys) :
    m.series name (label key) = value key := by
  unfold series
  rw [hsamples]
  clear hsamples
  induction keys with
  | nil => exact absurd hkey List.not_mem_nil
  | cons first rest ih =>
    rw [List.map_cons, List.nodup_cons] at hlabels
    rcases List.mem_cons.1 hkey with rfl | hkey
    · have hrest : (rest.map fun key => (⟨label key, value key⟩ : Sample)).filter
          (·.labels = label key) = [] := by
        simp only [List.filter_eq_nil_iff, List.mem_map, decide_eq_true_eq]
        rintro _ ⟨other, hother, rfl⟩ hsame
        exact hlabels.1 (List.mem_map.2 ⟨other, hother, hsame⟩)
      simp [hrest]
    · have hne : label first ≠ label key := fun hsame =>
        hlabels.1 (List.mem_map.2 ⟨key, hkey, hsame.symm⟩)
      simpa [hne] using ih hlabels.2 hkey

/-- No sample, no number. -/
theorem series_of_not_mem {name : String} {labels : List (String × String)}
    (h : labels ∉ (m.samples name).map (·.labels)) : m.series name labels = 0 := by
  have hnone : (m.samples name).filter (·.labels = labels) = [] := by
    simp only [List.filter_eq_nil_iff, decide_eq_true_eq]
    intro sample hsample hsame
    exact h (List.mem_map.2 ⟨sample, hsample, hsame⟩)
  rw [series, hnone]
  rfl

/-! ### Events -/

/-- How the outcome of an event is labelled. -/
def statusOf (succeeded : Bool) : String := if succeeded then "ok" else "error"

/-- The labels under which an event with that name and outcome is counted. -/
def eventLabels (name : String) (succeeded : Bool) : List (String × String) :=
  [("event", name), ("status", statusOf succeeded)]

/-- The counter of events with that name and outcome. -/
def eventCount (m : Metrics) (key : String × Bool) : Nat :=
  if key.2 then m.handled key.1 else m.failed key.1

/-- The names and outcomes of events. -/
def eventKeys : List (String × Bool) := eventNames.flatMap fun name => [(name, true), (name, false)]

/-- Labels tell names and outcomes apart. -/
theorem eventLabels_inj {name name' : String} {succeeded succeeded' : Bool} :
    eventLabels name succeeded = eventLabels name' succeeded' ↔
      name = name' ∧ succeeded = succeeded' := by
  cases succeeded <;> cases succeeded' <;> simp [eventLabels, statusOf]

/-- The samples of events. -/
theorem samples_eventsTotal (m : Metrics) :
    m.samples "events_total" = eventKeys.map fun key =>
      ⟨eventLabels key.1 key.2, m.eventCount key⟩ := by
  rw [eventKeys, List.map_flatMap]
  rfl

/-- No two names and outcomes have the same labels. -/
theorem nodup_eventLabels : (eventKeys.map fun key => eventLabels key.1 key.2).Nodup := by
  refine List.Nodup.map ?_ (by decide +kernel)
  rintro ⟨name, succeeded⟩ ⟨name', succeeded'⟩ hsame
  obtain ⟨rfl, rfl⟩ := eventLabels_inj.1 hsame
  rfl

/-- An event is recorded under its label, unless it is a request by id. -/
theorem recordedAs?_eq (kind : EventKind) :
    recordedAs? kind =
      if kind ∈ [EventKind.resolveTodos, .restoreTodos] then none else some kind.label := by
  cases kind <;> rfl

/-- The series of events depend on the counters of events only. -/
theorem eventsTotal_congr (h : m'.eventCount = m.eventCount) (labels : List (String × String)) :
    m'.series "events_total" labels = m.series "events_total" labels := by
  rw [series, series, samples_eventsTotal, samples_eventsTotal, h]

/-- Counting an event adds one to the counter of its name and outcome. -/
theorem eventCount_countEvent {kind : EventKind} {name : String} (succeeded : Bool)
    (hname : recordedAs? kind = some name) (key : String × Bool) :
    (m.countEvent kind succeeded).eventCount key =
      m.eventCount key + if key = (name, succeeded) then 1 else 0 := by
  obtain ⟨other, outcome⟩ := key
  unfold countEvent
  rw [hname]
  cases succeeded <;> cases outcome <;> simp [eventCount, bump] <;> split <;> rfl

/-- **Counting an event adds one to the series of its label and status**, unless it is a request by
id, and nothing to any other. -/
theorem eventsTotal_countEvent (m : Metrics) (kind : EventKind) (succeeded : Bool)
    (labels : List (String × String)) :
    (m.countEvent kind succeeded).series "events_total" labels =
      m.series "events_total" labels +
        if kind ∉ [EventKind.resolveTodos, .restoreTodos] ∧
          labels = eventLabels kind.label succeeded then 1 else 0 := by
  have hrecorded := recordedAs?_eq kind
  by_cases hkind : kind ∈ [EventKind.resolveTodos, .restoreTodos]
  · rw [if_pos hkind] at hrecorded
    unfold countEvent
    rw [hrecorded, if_neg fun h => h.1 hkind]
    rfl
  · rw [if_neg hkind] at hrecorded
    by_cases hlabels : labels ∈ eventKeys.map fun key => eventLabels key.1 key.2
    · obtain ⟨key, hkey, rfl⟩ := List.mem_map.1 hlabels
      have hseries (m : Metrics) := series_of_samples (samples_eventsTotal m) nodup_eventLabels hkey
      rw [hseries, hseries, eventCount_countEvent succeeded hrecorded]
      simp [hkind, eventLabels_inj, Prod.ext_iff]
    · have hmem (m : Metrics) : labels ∉ (m.samples "events_total").map (·.labels) := by
        rw [samples_eventsTotal, List.map_map]
        exact hlabels
      rw [series_of_not_mem (hmem _), series_of_not_mem (hmem _), if_neg]
      rintro ⟨_, rfl⟩
      refine hlabels (List.mem_map.2 ⟨(kind.label, succeeded), ?_, rfl⟩)
      have hname : kind.label ∈ eventNames :=
        List.mem_filterMap.2 ⟨kind, EventKind.mem_all kind, hrecorded⟩
      exact List.mem_flatMap.2 ⟨kind.label, hname, by cases succeeded <;> simp⟩

/-- Counting effects counts no event. -/
theorem eventCount_countEffects (m : Metrics) (ops : List Ledger.Op)
    (effects : List Ledger.Effect) : (m.countEffects ops effects).eventCount = m.eventCount := by
  have hone (m : Metrics) (op : Ledger.Op) (effect : Ledger.Effect) :
      (m.countEffect op effect).eventCount = m.eventCount := by
    unfold countEffect
    split
    · rfl
    · split <;> rfl
    · rfl
    · rfl
  unfold countEffects
  induction ops.zip effects generalizing m with
  | nil => rfl
  | cons pair rest ih => rw [List.foldl_cons, ih, hone]

end Metrics

namespace Service

open Metrics (eventLabels)

/-! ### Handled events -/

/-- The second phase of an event counts no event. -/
theorem eventCount_conclude (now : Int64) (gathered : Except Error (List Ledger.Op)) (s : State) :
    (conclude now gathered s).2.metrics.eventCount = s.metrics.eventCount := by
  unfold conclude
  split
  · rfl
  · split
    · rfl
    · exact Metrics.eventCount_countEffects _ _ _

/-- **An event that is handled counts once, under its label and with the status of its outcome, and
counts under nothing else**, unless it is a request by id, which counts nowhere. This is so in every
state and whatever the collaborators do. -/
theorem eventsTotal_handle {σ : Type} (c : Collaborators (StateM σ)) (settings : Settings)
    (now : Int64) (event : Event) (s : State) (world : σ) (labels : List (String × String)) :
    let (result, after) := ((handle c settings now event s).run world).1
    after.metrics.series "events_total" labels =
      s.metrics.series "events_total" labels +
        if event.kind ∉ [EventKind.resolveTodos, .restoreTodos] ∧
          labels = eventLabels event.kind.label result.isOk then 1 else 0 := by
  rw [run_handle]
  generalize ((gather c settings event s.database).run.run world).1 = gathered
  have hresult : ((conclude now gathered s).1.map outcomeOf).isOk =
      (conclude now gathered s).1.isOk := by
    cases (conclude now gathered s).1 <;> rfl
  have hsame := Metrics.eventsTotal_congr (eventCount_conclude now gathered s) labels
  have hcounted := Metrics.eventsTotal_countEvent (conclude now gathered s).2.metrics event.kind
    (conclude now gathered s).1.isOk labels
  rw [hsame] at hcounted
  dsimp only [report]
  rw [hresult]
  exact hcounted

/-- **Not every event counts under its label**: ada resolves her to-do by its id, and no series of
events grows. -/
theorem eventsTotal_misses_resolveTodos :
    ¬ ∀ {σ : Type} (c : Collaborators (StateM σ)) (settings : Settings) (now : Int64)
      (event : Event) (s : State) (world : σ) (labels : List (String × String)),
      let (result, after) := ((handle c settings now event s).run world).1
      after.metrics.series "events_total" labels =
        s.metrics.series "events_total" labels +
          if labels = eventLabels event.kind.label result.isOk then 1 else 0 := by
  intro h
  let c : Collaborators (StateM Unit) := .builtIn {}
  let s : State :=
    { database :=
        { users := [⟨1, "ada", false, 1, 0⟩]
          projects := [⟨1, "engine", "public", .integer 0⟩]
          todos := [TodoRow.ofNew 1 7 ⟨1, 1, 1, .row .issue 5, none, .marked⟩] } }
  let event : Event := .resolveTodos [1] 1 .apiDone
  let labels := eventLabels event.kind.label true
  have hbefore : s.metrics.series "events_total" labels = 0 := by decide +kernel
  have hafter : ((handle c {} 8 event s).run ()).1.2.metrics.series "events_total" labels = 0 := by
    decide +kernel
  have hok : ((handle c {} 8 event s).run ()).1.1.isOk = true := by decide +kernel
  have hcounted := h c {} 8 event s () labels
  dsimp only at hcounted
  rw [hbefore, hafter, hok, if_pos rfl] at hcounted
  omega

end Service

end TodoLedger
