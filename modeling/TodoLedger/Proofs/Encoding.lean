import Mathlib.Data.List.Nodup
import TodoLedger.Event.Json

/-!
# What is written reads back

* A record whose fields are all different is read with just these (`Record.ofJson?_object`), and a
  field is found behind others (`Record.required_cons_of_ne`, `Record.withDefault_cons_of_ne`). A tag
  that is written first is taken out again (`Tagged.ofJson?_cons`).
* Everything that an event is made of reads back, on its own and inside of a tagged record: the
  targets (`Target.ofJson?_toJson`), notes (`Note.ofJson?_toFields`), resolutions.
* **Every event and every outcome reads back as it was written** (`Event.ofJson?_toJson`,
  `Outcome.ofJson?_toJson`, `read_written`).
-/

namespace TodoLedger

open Json (Record Setting Tagged)

/-! ### Records -/

namespace Json

/-- No name is repeated among different names. -/
theorem Record.isRepeated_of_nodup {fields : List (String × Json)}
    (h : (fields.map (·.1)).Nodup) (name : String) : Record.isRepeated fields name = false := by
  have hcount : (fields.map (·.1)).count name ≤ 1 := List.nodup_iff_count_le_one.1 h name
  have hlength : (fields.filter (·.1 = name)).length = (fields.map (·.1)).count name := by
    rw [List.count_eq_countP, List.countP_map, List.countP_eq_length_filter]
    rfl
  rw [isRepeated, hlength, decide_eq_false_iff_not]
  omega

/-- **An object whose fields are all different is a record of these.** -/
theorem Record.ofJson?_object (names : List String) {fields : List (String × Json)}
    (h : (fields.map (·.1)).Nodup) : Record.ofJson? names (.object fields) = some ⟨fields, false⟩ := by
  have hnone : names.any (isRepeated fields) = false := by
    rw [List.any_eq_false]
    intro name _
    rw [isRepeated_of_nodup h]
    exact Bool.false_ne_true
  rw [ofJson?, hnone]
  rfl

section Fields

variable {α : Type} {name other : String} {value : Json} {rest : List (String × Json)}
  {positional : Bool} {default : α} {decode : Json → Option α}

/-- A field that comes first is found. -/
@[simp] theorem Record.required_cons_self :
    Record.required ⟨(name, value) :: rest, positional⟩ name decode = decode value := by
  simp [required]

/-- A field is looked up past another. -/
@[simp] theorem Record.required_cons_of_ne (h : name ≠ other) :
    Record.required ⟨(other, value) :: rest, positional⟩ name decode =
      Record.required ⟨rest, positional⟩ name decode := by
  have hother : (name == other) = false := by simpa using h
  simp only [required, List.lookup_cons, hother]

/-- A field that comes first is found, though it could be missing. -/
@[simp] theorem Record.withDefault_cons_self :
    Record.withDefault ⟨(name, value) :: rest, positional⟩ name default decode = decode value := by
  simp [withDefault]

/-- A field that may be missing is looked up past another. -/
@[simp] theorem Record.withDefault_cons_of_ne (h : name ≠ other) :
    Record.withDefault ⟨(other, value) :: rest, positional⟩ name default decode =
      Record.withDefault ⟨rest, positional⟩ name default decode := by
  have hother : (name == other) = false := by simpa using h
  simp only [withDefault, List.lookup_cons, hother]

/-- A field that is missing has its default. -/
@[simp] theorem Record.withDefault_nil :
    Record.withDefault ⟨[], positional⟩ name default decode = some default := by
  simp [withDefault]

end Fields

/-- Reading goes on with what was read. This is `Option.bind_some` with a proof that does not
evaluate: to evaluate the reader of an id is to count to `2^64`. -/
theorem bind_of_read {α β : Type} {a : α} {f : α → Option β} : (some a >>= f) = f a := by
  cases h : f a <;> simp [h]

/-- **A tag that comes first, and only there, is taken out.** -/
theorem Tagged.ofJson?_cons {tagName : String} {fields : List (String × Json)} (tag : Json)
    (h : tagName ∉ fields.map (·.1)) :
    Tagged.ofJson? tagName (.object ((tagName, tag) :: fields)) = some ⟨tag, .object fields⟩ := by
  have hother : ∀ field ∈ fields, field.1 ≠ tagName := by
    rintro field hfield rfl
    exact h (List.mem_map_of_mem hfield)
  have hnone : fields.filter (·.1 = tagName) = [] := by
    rw [List.filter_eq_nil_iff]
    simpa using hother
  have hall : fields.filter (·.1 ≠ tagName) = fields := by
    rw [List.filter_eq_self]
    simpa using hother
  rw [ofJson?, List.filter_cons_of_pos (by simp), hnone, List.filter_cons_of_neg (by simp), hall]

/-- An optional id reads back. -/
@[simp] theorem option?_ofOption_ofId (id : Option UInt64) :
    option? id? (ofOption ofId id) = some id :=
  option?_ofOption id?_ofId (fun _ => by rintro ⟨⟩) id

/-- An optional text reads back. -/
@[simp] theorem option?_ofOption_string (text : Option String) :
    option? text? (ofOption .string text) = some text :=
  option?_ofOption text?_string (fun _ => by rintro ⟨⟩) text

end Json

/-! ### Parts of an event -/

/-- A state is read back, whatever may be written in its place. -/
@[simp] theorem TargetState.ofJson?_toJson (setting : Setting) (state : TargetState) :
    TargetState.ofJson? setting state.toJson = some state := by
  simp [TargetState.ofJson?, TargetState.toJson, Json.name?]

/-- A resolution is read back. -/
@[simp] theorem Resolution.ofJson?_toJson (setting : Setting) (resolution : Resolution) :
    Resolution.ofJson? setting resolution.toJson = some resolution := by
  simp [Resolution.ofJson?, Resolution.toJson, Json.name?]

/-- An issue is read back. -/
@[simp] theorem Issue.ofJson?_toFields (setting : Setting) (issue : Issue) :
    Issue.ofJson? setting (.object issue.toFields) = some issue := by
  rw [ofJson?, Record.ofJson?_object _ (by simp [toFields])]
  simp [toFields, Json.bind_of_read, -Option.bind_eq_bind]

/-- A merge request is read back. -/
@[simp] theorem MergeRequest.ofJson?_toFields (setting : Setting) (mergeRequest : MergeRequest) :
    MergeRequest.ofJson? setting (.object mergeRequest.toFields) = some mergeRequest := by
  rw [ofJson?, Record.ofJson?_object _ (by simp [toFields])]
  simp [toFields, Json.bind_of_read, -Option.bind_eq_bind]

/-- A commit is read back, also one whose author is not known. -/
@[simp] theorem Commit.ofJson?_toFields (commit : Commit) :
    Commit.ofJson? (.object commit.toFields) = some commit := by
  rw [ofJson?, Record.ofJson?_object _ (by simp [toFields])]
  simp [toFields, Json.bind_of_read, -Option.bind_eq_bind]

/-- An alert is read back. -/
@[simp] theorem Alert.ofJson?_toFields (setting : Setting) (alert : Alert) :
    Alert.ofJson? setting (.object alert.toFields) = some alert := by
  rw [ofJson?, Record.ofJson?_object _ (by simp [toFields])]
  simp [toFields, Json.bind_of_read, -Option.bind_eq_bind]

/-- A design is read back, together with its issue. -/
@[simp] theorem Design.ofJson?_toFields (setting : Setting) (design : Design) :
    Design.ofJson? setting (.object design.toFields) = some design := by
  rw [ofJson?, Record.ofJson?_object _ (by simp [toFields])]
  simp [toFields, Json.bind_of_read, -Option.bind_eq_bind]

/-- A snippet is read back. -/
@[simp] theorem ProjectSnippet.ofJson?_toFields (snippet : ProjectSnippet) :
    ProjectSnippet.ofJson? (.object snippet.toFields) = some snippet := by
  rw [ofJson?, Record.ofJson?_object _ (by simp [toFields])]
  simp [toFields, Json.bind_of_read, -Option.bind_eq_bind]

/-- **A target reads back**, on its own and inside of a tagged record. -/
@[simp] theorem Target.ofJson?_toJson (setting : Setting) (target : Target) :
    Target.ofJson? setting target.toJson = some target := by
  have htag : "type" ∉ target.toFields.map (·.1) := by
    cases target with
    | issue i => simp [toFields, Issue.toFields]
    | mergeRequest mr => simp [toFields, MergeRequest.toFields]
    | commit c => simp [toFields, Commit.toFields]
    | alert a => simp [toFields, Alert.toFields]
    | design d => simp [toFields, Design.toFields]
    | projectSnippet s => simp [toFields, ProjectSnippet.toFields]
  have hname : Json.tag? setting (TargetKind.all.map (·.name)) target.kind.toJson =
      some target.kind.name := by
    cases target <;> rfl
  have hfields : ofFields? target.kind (.object target.toFields) = some target := by
    cases target <;> simp [ofFields?, kind, toFields]
  rw [ofJson?, toJson, Tagged.ofJson?_cons _ htag]
  simp [Json.bind_of_read, -Option.bind_eq_bind, hname, hfields]

/-- A note is read back, together with its target. -/
@[simp] theorem Note.ofJson?_toFields (setting : Setting) (note : Note) :
    Note.ofJson? setting (.object note.toFields) = some note := by
  rw [ofJson?, Record.ofJson?_object _ (by simp [toFields])]
  simp [toFields, Json.bind_of_read, -Option.bind_eq_bind]

/-! ### Events and outcomes -/

namespace Event

/-- No field of an event has the name of its tag. -/
theorem not_mem_toFields (event : Event) : "event" ∉ event.toFields.map (·.1) := by
  cases event <;> simp [toFields, issueField, mergeRequestField, targetField, noteField,
    currentUserField]

/-- The fields of an event are all different. -/
theorem nodup_toFields (event : Event) : (event.toFields.map (·.1)).Nodup := by
  cases event <;> simp [toFields, issueField, mergeRequestField, targetField, noteField,
    currentUserField]

/-- The kind of an event is read from its tag. -/
theorem tag?_kind (event : Event) :
    Json.tag? .direct (EventKind.all.map (·.tag)) (.string event.kind.tag) =
      some event.kind.tag := by
  have hmem : event.kind.tag ∈ EventKind.all.map (·.tag) :=
    List.mem_map_of_mem (EventKind.mem_all event.kind)
  rw [Json.tag?, if_pos (List.contains_iff_mem.2 hmem)]

/-- **The fields of an event are read as those of its kind.** -/
theorem ofRecord?_toFields (event : Event) :
    ofRecord? event.kind ⟨event.toFields, false⟩ = some event := by
  cases event <;>
    simp [kind, ofRecord?, toFields, issue?, mergeRequest?, targetOf?, note?, currentUser?,
      previous?, skipUsers?, issueField, mergeRequestField, targetField, noteField,
      currentUserField, Json.bind_of_read, -Option.bind_eq_bind]

/-- **An event reads back.** -/
theorem ofJson?_toJson (event : Event) : ofJson? event.toJson = some event := by
  rw [ofJson?, toJson, Tagged.ofJson?_cons _ event.not_mem_toFields]
  simp only [Json.bind_of_read, event.tag?_kind, EventKind.ofTag?_tag,
    Record.ofJson?_object _ event.nodup_toFields, event.ofRecord?_toFields]

end Event

namespace Outcome

/-- **An outcome reads back, with or without restored to-dos.** -/
theorem ofJson?_toJson (outcome : Outcome) : ofJson? outcome.toJson = some outcome := by
  obtain ⟨created, resolved, restored⟩ := outcome
  cases restored with
  | nil =>
    rw [ofJson?, toJson, Record.ofJson?_object _ (by simp)]
    simp [Json.bind_of_read, -Option.bind_eq_bind]
  | cons first rest =>
    rw [ofJson?, toJson, Record.ofJson?_object _ (by simp)]
    simp [Json.bind_of_read, -Option.bind_eq_bind]

/-- Restored to-dos are written if there are any. -/
theorem mem_fields_toJson (outcome : Outcome) :
    ∃ fields, outcome.toJson = .object fields ∧
      ("restored" ∈ fields.map (·.1) ↔ outcome.restored ≠ []) := by
  obtain ⟨created, resolved, restored⟩ := outcome
  refine ⟨_, rfl, ?_⟩
  cases restored with
  | nil => simp
  | cons => simp

end Outcome

/-- **Every event reads back as it was written, and so does every outcome**, which is written
without restored to-dos if and only if there are none. -/
theorem read_written :
    (∀ event : Event, Event.ofJson? event.toJson = some event) ∧
      ∀ outcome : Outcome, Outcome.ofJson? outcome.toJson = some outcome ∧
        ∃ fields, outcome.toJson = .object fields ∧
          ("restored" ∈ fields.map (·.1) ↔ outcome.restored ≠ []) :=
  ⟨Event.ofJson?_toJson, fun outcome => ⟨outcome.ofJson?_toJson, outcome.mem_fields_toJson⟩⟩

end TodoLedger
