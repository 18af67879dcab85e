import Mathlib.Data.List.Sort
import TodoLedger.Mention.Directory
import TodoLedger.Proofs.Mention.Settling
import TodoLedger.Recipients

/-!
# Who is mentioned

The recipients on account of a text, said without the functions that find them. Collaborators that do
nothing but answer are given by their `Answers`.

* `Answers.RefersTo`, `Answers.Addresses`: there is a handle in the text, or in a run that opens a line
  of it, behind which the directory knows the user.
* `Answers.IsCandidate`: the text refers to the user, who is not to be skipped, and the earlier text did
  not.
* Ticking boxes is no special case: what is found for an edit is found for the current text while those
  to whom the earlier text refers are skipped (`ofMentions_eq`).
* **The recipients are the candidates who see the target, in ascending order, unless it fails for a
  candidate whether they do; then the least of these candidates makes the error**
  (`ofMentions_isDecision`).
-/

namespace TodoLedger

/-- What collaborators answer that do nothing else. -/
structure Answers where
  /-- Handles in code do not count. -/
  ignoreCode : Bool
  /-- The user behind a handle, told for all handles of a text at once. -/
  lookup : List String → String → Option UserId
  /-- Whether a user sees a target. -/
  canSee : UserId → Target → Except Fault Bool

namespace Answers

/-- The collaborators that give these answers. -/
def witnesses (a : Answers) (n : Type → Type) [Monad n] : Witnesses n where
  scan := Mention.scanUsers a.ignoreCode fun handles => pure (a.lookup handles)
  canSee user target := ExceptT.mk (pure (a.canSee user target))

variable (a : Answers) {text : String} {user : UserId} {target : Target}

/-- The handles of a text. -/
def handles (text : String) : Mentions String := Mention.scan a.ignoreCode text

/-- A handle of the text is that of the user. -/
def RefersTo (text : String) (user : UserId) : Prop :=
  ∃ handle ∈ (a.handles text).all, a.lookup (a.handles text).all handle = some user

/-- A handle in a run that opens a line of the text is that of the user. -/
def Addresses (text : String) (user : UserId) : Prop :=
  ∃ handle ∈ (a.handles text).addressed, a.lookup (a.handles text).all handle = some user

instance : Decidable (a.Addresses text user) :=
  inferInstanceAs (Decidable (∃ handle ∈ _, _))

/-- The current text refers to the user, who is not to be skipped, and the earlier text, where it is
known, does not. -/
structure IsCandidate (change : TextChange) (skip : List UserId) (user : UserId) : Prop where
  current : a.RefersTo change.current user
  kept : user ∉ skip
  new : ∀ previous, change.previous = some previous → ¬ a.RefersTo previous user

/-- Why a user to whom the text refers receives a to-do. -/
def reason (text : String) (user : UserId) : Action :=
  if a.Addresses text user then .directlyAddressed else .mentioned

/-- What shall come of a text that is new or was edited. -/
inductive IsDecision (change : TextChange) (skip : List UserId) (target : Target) :
    Except Error (List Recipient) → Prop
  /-- If it is known of each candidate whether they see the target, those receive a to-do who do. -/
  | listed {recipients : List Recipient} :
    (∀ user, a.IsCandidate change skip user → ∃ sees, a.canSee user target = .ok sees) →
    recipients.Pairwise (fun first second => first.userId < second.userId) →
    (∀ recipient, recipient ∈ recipients ↔ a.IsCandidate change skip recipient.userId ∧
      a.canSee recipient.userId target = .ok true ∧
      recipient.action = a.reason change.current recipient.userId) →
    IsDecision change skip target (.ok recipients)
  /-- The least candidate of whom it is not known makes the error. -/
  | failed {user : UserId} {fault : Fault} :
    a.IsCandidate change skip user → a.canSee user target = .error fault →
    (∀ other < user, a.IsCandidate change skip other → ∃ sees, a.canSee other target = .ok sees) →
    IsDecision change skip target (.error (.visibility fault))

/-! ### The users of a text -/

/-- The users to whom a text refers. -/
def references (text : String) : Mentions UserId :=
  Mention.resolve (a.lookup (a.handles text).all) (a.handles text)

/-- The users in opening runs are those whom the text addresses. -/
theorem mem_addressed_references :
    user ∈ (a.references text).addressed ↔ a.Addresses text user := by
  rw [references, Mention.resolve, mem_ascending, List.mem_filterMap]
  rfl

/-- All users are those to whom the text refers. -/
theorem mem_all_references : user ∈ (a.references text).all ↔ a.RefersTo text user := by
  rw [Mentions.mem_all, references, Mention.resolve]
  simp only [mem_ascending, List.mem_filterMap, RefersTo, Mentions.mem_all, or_and_right, exists_or]

/-- Who is addressed receives a to-do for that reason, and everyone else for being mentioned. -/
theorem mentionAction_references :
    Recipient.mentionAction (a.references text) user = a.reason text user := by
  rw [Recipient.mentionAction, reason]
  simp only [List.contains_iff_mem, mem_addressed_references]

/-- **Ticking boxes refers to nobody else.** -/
theorem references_eq_of_onlyStatesChanged {previous : String}
    (h : TaskList.onlyStatesChanged previous text = true) :
    a.references previous = a.references text := by
  rw [TaskList.onlyStatesChanged, beq_iff_eq] at h
  have hhandles : a.handles previous = a.handles text := Mention.scan_congr h _
  rw [references, references, hhandles]

/-- The users to whom the earlier text refers, where it is known. -/
def earlier (change : TextChange) : List UserId :=
  change.previous.elim [] fun previous => (a.references previous).all

/-- The candidates, in ascending order. -/
def candidates (change : TextChange) (skip : List UserId) : List UserId :=
  (a.references change.current).all.filter (!(skip ++ a.earlier change).contains ·)

/-- The candidates are those who are referred to now, were not before, and are not to be skipped. -/
theorem mem_candidates {change : TextChange} {skip : List UserId} :
    user ∈ a.candidates change skip ↔ a.IsCandidate change skip user := by
  have hearlier : user ∈ a.earlier change ↔
      ∃ previous, change.previous = some previous ∧ a.RefersTo previous user := by
    rw [earlier]
    cases change.previous with
    | none => simp
    | some previous => simpa using a.mem_all_references
  rw [candidates, List.mem_filter, mem_all_references]
  simp only [Bool.not_eq_true', List.contains_eq_mem, decide_eq_false_iff_not, List.mem_append,
    not_or, hearlier, not_exists, not_and]
  exact ⟨fun ⟨hcurrent, hkept, hnew⟩ => ⟨hcurrent, hkept, hnew⟩,
    fun ⟨hcurrent, hkept, hnew⟩ => ⟨hcurrent, hkept, hnew⟩⟩

/-- The candidates are listed in ascending order. -/
theorem candidates_pairwise (change : TextChange) (skip : List UserId) :
    (a.candidates change skip).Pairwise (· < ·) :=
  (ascending_pairwise _).filter _

/-- The recipients, where it is known who sees the target. -/
def recipients (change : TextChange) (skip : List UserId) (target : Target) : List Recipient :=
  ((a.candidates change skip).filter fun user => a.canSee user target matches .ok true).map
    fun user => ⟨user, a.reason change.current user⟩

/-- The recipients are the candidates who see the target, each with their reason. -/
theorem mem_recipients {change : TextChange} {skip : List UserId} {recipient : Recipient} :
    recipient ∈ a.recipients change skip target ↔ a.IsCandidate change skip recipient.userId ∧
      a.canSee recipient.userId target = .ok true ∧
      recipient.action = a.reason change.current recipient.userId := by
  have hsees (user : UserId) :
      (a.canSee user target matches .ok true) = true ↔ a.canSee user target = .ok true := by
    split <;> simp_all
  simp only [recipients, List.mem_map, List.mem_filter, mem_candidates, hsees, and_assoc]
  constructor
  · rintro ⟨user, huser, hsees, rfl⟩
    exact ⟨huser, hsees, rfl⟩
  · rintro ⟨huser, hsees, haction⟩
    exact ⟨recipient.userId, huser, hsees, by rw [← haction]⟩

/-- The recipients are listed in ascending order of users. -/
theorem recipients_pairwise (change : TextChange) (skip : List UserId) (target : Target) :
    (a.recipients change skip target).Pairwise fun first second => first.userId < second.userId := by
  rw [recipients, List.pairwise_map]
  exact (a.candidates_pairwise change skip).filter _

/-- After boxes are ticked nobody is a candidate. -/
theorem not_isCandidate_of_onlyStatesChanged {previous : String}
    (h : TaskList.onlyStatesChanged previous text = true) (skip : List UserId) (user : UserId) :
    ¬ a.IsCandidate ⟨text, some previous⟩ skip user := by
  intro hcandidate
  refine hcandidate.new previous rfl ?_
  rw [← mem_all_references, a.references_eq_of_onlyStatesChanged h, mem_all_references]
  exact hcandidate.current

/-! ### Asking the collaborators -/

section Asking

variable {n : Type → Type} [Monad n] [LawfulMonad n]

/-- Nothing follows an error. -/
theorem throw_bind {α β : Type} (error : Error) (f : α → ExceptT Error n β) :
    throw error >>= f = throw error := by
  apply ExceptT.ext
  rw [ExceptT.run_bind, ExceptT.run_throw, pure_bind]
  rfl

/-- Errors of an answer are renamed in the answer. -/
theorem adapt_mk_pure {ε ε' α : Type} (f : ε → ε') (answer : Except ε α) :
    (ExceptT.mk (pure answer) : ExceptT ε n α).adapt f = ExceptT.mk (pure (answer.mapError f)) :=
  map_pure (Except.mapError f) answer

/-- The directory is asked once, and what it answers is what the text refers to. -/
theorem scanUsers_eq_pure {ignoreCode : Bool} {lookup : String → Option UserId}
    (directory : List String → ExceptT Fault n (String → Option UserId))
    (h : directory (Mention.scan ignoreCode text).all = pure lookup) :
    Mention.scanUsers ignoreCode directory text =
      pure (Mention.resolve lookup (Mention.scan ignoreCode text)) := by
  have hdirectory : (pure lookup : ExceptT Fault n _).adapt (·.within .resolveHandles) =
      pure lookup := adapt_mk_pure _ (.ok _)
  simp only [Mention.scanUsers]
  rw [h, hdirectory, pure_bind]
  split
  · -- Behind no handles there are no users.
    next hempty =>
    rw [Mentions.isEmpty, Bool.and_eq_true, List.isEmpty_iff, List.isEmpty_iff] at hempty
    rw [Mention.resolve, hempty.1, hempty.2]
    rfl
  · rfl

/-- A directory that always answers tells to whom a text refers. -/
theorem scan_witnesses (text : String) : (a.witnesses n).scan text = pure (a.references text) :=
  scanUsers_eq_pure (fun handles => pure (a.lookup handles)) rfl

/-- The same of the references as errors of the ledger. -/
theorem references_witnesses (text : String) :
    (a.witnesses n).references text = pure (a.references text) := by
  rw [Witnesses.references, scan_witnesses]
  exact adapt_mk_pure Error.references (.ok _)

/-- An answer is passed on. -/
theorem sees_of_ok {sees : Bool} (h : a.canSee user target = .ok sees) :
    (a.witnesses n).sees target user = pure sees := by
  rw [Witnesses.sees, witnesses, adapt_mk_pure, h]
  rfl

/-- A fault is passed on as an error about what is seen. -/
theorem sees_of_error {fault : Fault} (h : a.canSee user target = .error fault) :
    (a.witnesses n).sees target user = throw (.visibility fault) := by
  rw [Witnesses.sees, witnesses, adapt_mk_pure, h]
  rfl

/-- Users of whom it is known whether they see the target are told apart. -/
theorem seers_eq_pure {users : List UserId}
    (h : ∀ user ∈ users, ∃ sees, a.canSee user target = .ok sees) :
    (a.witnesses n).seers target users =
      pure (users.filter fun user => a.canSee user target matches .ok true) := by
  induction users with
  | nil => rfl
  | cons user rest ih =>
    rw [List.forall_mem_cons] at h
    obtain ⟨⟨sees, hsees⟩, hrest⟩ := h
    rw [Witnesses.seers, a.sees_of_ok hsees, ih hrest, pure_bind, pure_bind, List.filter_cons, hsees]
    cases sees <;> rfl

/-- The first user of whom it is not known makes the error. -/
theorem seers_eq_throw {before after : List UserId} {fault : Fault}
    (hbefore : ∀ user ∈ before, ∃ sees, a.canSee user target = .ok sees)
    (huser : a.canSee user target = .error fault) :
    (a.witnesses n).seers target (before ++ user :: after) = throw (.visibility fault) := by
  induction before with
  | nil =>
    rw [List.nil_append, Witnesses.seers, a.sees_of_error huser, throw_bind]
  | cons first rest ih =>
    rw [List.forall_mem_cons] at hbefore
    obtain ⟨⟨sees, hsees⟩, hrest⟩ := hbefore
    rw [List.cons_append, Witnesses.seers, a.sees_of_ok hsees, ih hrest, pure_bind, throw_bind]

/-- **Ticking boxes is no special case.** -/
theorem ofMentions_eq (change : TextChange) (skip : List UserId) (target : Target) :
    Recipient.ofMentions (a.witnesses n) change skip target = do
      let users ← (a.witnesses n).seers target (a.candidates change skip)
      return users.map fun user => ⟨user, a.reason change.current user⟩ := by
  obtain ⟨current, previous⟩ := change
  have htext (skip : List UserId) : Recipient.ofText (a.witnesses n) current skip target = do
      let users ← (a.witnesses n).seers target
        ((a.references current).all.filter (!skip.contains ·))
      return users.map fun user => ⟨user, a.reason current user⟩ := by
    rw [Recipient.ofText, references_witnesses, pure_bind]
    simp only [mentionAction_references]
  cases previous with
  | none =>
    rw [Recipient.ofMentions, htext, candidates, earlier, Option.elim_none, List.append_nil]
  | some previous =>
    rw [Recipient.ofMentions]
    simp only
    split
    · next hticked =>
      have hnone : a.candidates ⟨current, some previous⟩ skip = [] := by
        rw [List.eq_nil_iff_forall_not_mem]
        intro user hmem
        exact a.not_isCandidate_of_onlyStatesChanged hticked skip user (a.mem_candidates.1 hmem)
      rw [hnone, Witnesses.seers, pure_bind]
      rfl
    · rw [references_witnesses, pure_bind, htext]
      rfl

/-- Where it is known of all candidates whether they see the target, the recipients are found. -/
theorem ofMentions_eq_pure {change : TextChange} {skip : List UserId}
    (h : ∀ user ∈ a.candidates change skip, ∃ sees, a.canSee user target = .ok sees) :
    Recipient.ofMentions (a.witnesses n) change skip target =
      pure (a.recipients change skip target) := by
  rw [ofMentions_eq, a.seers_eq_pure h, pure_bind]
  rfl

end Asking

/-! ### The decision -/

section Decision

variable {change : TextChange} {skip : List UserId}

/-- There is one decision only. -/
theorem IsDecision.unique {first second : Except Error (List Recipient)}
    (hfirst : a.IsDecision change skip target first)
    (hsecond : a.IsDecision change skip target second) : first = second := by
  have habsurd {user : UserId} {fault : Fault} (hfault : a.canSee user target = .error fault) :
      ¬ ∃ sees, a.canSee user target = .ok sees := by
    rintro ⟨sees, hsees⟩
    rw [hfault] at hsees
    cases hsees
  cases hfirst with
  | listed hanswers hascending hmem =>
    cases hsecond with
    | listed _ hascending' hmem' =>
      have : Std.Irrefl fun first second : Recipient => first.userId < second.userId :=
        ⟨fun _ => UInt64.lt_irrefl _⟩
      have : Std.Antisymm fun first second : Recipient => first.userId < second.userId :=
        ⟨fun _ _ h h' => absurd h' (UInt64.lt_asymm h)⟩
      rw [hascending.eq_of_mem_iff hascending' fun recipient => (hmem _).trans (hmem' _).symm]
    | failed huser hfault _ => exact absurd (hanswers _ huser) (habsurd hfault)
  | @failed user fault huser hfault hleast =>
    cases hsecond with
    | listed hanswers _ _ => exact absurd (hanswers _ huser) (habsurd hfault)
    | @failed user' fault' huser' hfault' hleast' =>
      by_cases hsame : user = user'
      · subst hsame
        rw [hfault] at hfault'
        cases hfault'
        rfl
      · rcases UInt64.lt_or_lt_of_ne hsame with hlt | hlt
        · exact absurd (hleast' _ hlt huser) (habsurd hfault)
        · exact absurd (hleast _ hlt huser') (habsurd hfault')

/-- Whether users see the target is known of all, or there is a first of whom it is not. -/
theorem answers_cases (target : Target) (users : List UserId) :
    (∀ user ∈ users, ∃ sees, a.canSee user target = .ok sees) ∨
      ∃ before user after fault, users = before ++ user :: after ∧
        (∀ user ∈ before, ∃ sees, a.canSee user target = .ok sees) ∧
        a.canSee user target = .error fault := by
  induction users with
  | nil => exact .inl (by simp)
  | cons user rest ih =>
    cases hanswer : a.canSee user target with
    | error fault => exact .inr ⟨[], user, rest, fault, rfl, by simp, hanswer⟩
    | ok sees =>
      rcases ih with hall | ⟨before, first, after, fault, rfl, hbefore, hfault⟩
      · exact .inl (List.forall_mem_cons.2 ⟨⟨sees, hanswer⟩, hall⟩)
      · exact .inr ⟨user :: before, first, after, fault, rfl,
          List.forall_mem_cons.2 ⟨⟨sees, hanswer⟩, hbefore⟩, hfault⟩

/-- The candidates who see the target are listed. -/
theorem isDecision_of_known
    (h : ∀ user ∈ a.candidates change skip, ∃ sees, a.canSee user target = .ok sees) :
    a.IsDecision change skip target (.ok (a.recipients change skip target)) :=
  .listed (fun user huser => h user (a.mem_candidates.2 huser))
    (a.recipients_pairwise change skip target) fun _ => a.mem_recipients

/-- The first candidate of whom it is not known is the least. -/
theorem isDecision_of_unknown {before after : List UserId} {fault : Fault}
    (hcandidates : a.candidates change skip = before ++ user :: after)
    (hbefore : ∀ user ∈ before, ∃ sees, a.canSee user target = .ok sees)
    (huser : a.canSee user target = .error fault) :
    a.IsDecision change skip target (.error (.visibility fault)) := by
  have hascending := a.candidates_pairwise change skip
  rw [hcandidates, List.pairwise_append, List.pairwise_cons] at hascending
  refine .failed (a.mem_candidates.1 (by simp [hcandidates])) huser fun other hlt hother => ?_
  rw [← mem_candidates, hcandidates, List.mem_append, List.mem_cons] at hother
  rcases hother with hother | rfl | hother
  · exact hbefore other hother
  · exact absurd hlt (UInt64.lt_irrefl _)
  · exact absurd hlt (UInt64.lt_asymm (hascending.2.1.1 other hother))

end Decision

/-- **The recipients on account of a text are those of the decision**, also when boxes were ticked and
there are no candidates. -/
theorem ofMentions_isDecision {n : Type → Type} [Monad n] [LawfulMonad n] (change : TextChange)
    (skip : List UserId) (target : Target) :
    ∃ result, (Recipient.ofMentions (a.witnesses n) change skip target).run = pure result ∧
      (∀ other, a.IsDecision change skip target other ↔ other = result) ∧
      ∀ previous, change.previous = some previous →
        TaskList.onlyStatesChanged previous change.current = true →
        ∀ user, ¬ a.IsCandidate change skip user := by
  have hticked : ∀ previous, change.previous = some previous →
      TaskList.onlyStatesChanged previous change.current = true →
      ∀ user, ¬ a.IsCandidate change skip user := by
    obtain ⟨current, _⟩ := change
    rintro previous ⟨⟩ hticked
    exact a.not_isCandidate_of_onlyStatesChanged hticked skip
  have hunique {result : Except Error (List Recipient)}
      (hresult : a.IsDecision change skip target result) (other : Except Error (List Recipient)) :
      a.IsDecision change skip target other ↔ other = result :=
    ⟨fun hother => hother.unique a hresult, fun hother => hother ▸ hresult⟩
  rcases a.answers_cases target (a.candidates change skip) with
    hknown | ⟨before, user, after, fault, hcandidates, hbefore, hfault⟩
  · refine ⟨_, ?_, hunique (a.isDecision_of_known hknown), hticked⟩
    rw [a.ofMentions_eq_pure hknown]
    rfl
  · refine ⟨_, ?_, hunique (a.isDecision_of_unknown hcandidates hbefore hfault), hticked⟩
    rw [ofMentions_eq, hcandidates, a.seers_eq_throw hbefore hfault, throw_bind]
    rfl

/-- Dora sees everything, and of Carl and Emil it is not known. -/
def partlyKnown : Answers where
  ignoreCode := true
  lookup _ handle := [("carl", 3), ("dora", 4), ("emil", 5), ("fred", 6)].lookup handle
  canSee user _ := if user = 3 ∨ user = 5 then .error ⟨[], .stated "down"⟩ else .ok (user = 4)

/-- Carl makes no error if he was mentioned before, and the error if Emil was. -/
theorem ofMentions_isDecision_partlyKnown :
    let target : Target := .issue ⟨1, 1, 1, "", "", .opened, [], false⟩
    partlyKnown.IsDecision ⟨"ask @fred, @carl and\n@dora: @dora", some "cc @carl"⟩ [] target
      (.ok [⟨4, .directlyAddressed⟩]) ∧
    partlyKnown.IsDecision ⟨"@emil @dora @carl", some "@emil"⟩ [] target
      (.error (.visibility ⟨[], .stated "down"⟩)) := by
  intro target
  have hcarl : (Recipient.ofMentions (partlyKnown.witnesses Id)
      ⟨"ask @fred, @carl and\n@dora: @dora", some "cc @carl"⟩ [] target).run.run =
        .ok [⟨4, .directlyAddressed⟩] := by
    decide +kernel
  have hemil : (Recipient.ofMentions (partlyKnown.witnesses Id)
      ⟨"@emil @dora @carl", some "@emil"⟩ [] target).run.run =
        .error (.visibility ⟨[], .stated "down"⟩) := by
    decide +kernel
  obtain ⟨listed, hlisted, hcarlDecision, -⟩ := partlyKnown.ofMentions_isDecision (n := Id)
    ⟨"ask @fred, @carl and\n@dora: @dora", some "cc @carl"⟩ [] target
  obtain ⟨failed, hfailed, hemilDecision, -⟩ := partlyKnown.ofMentions_isDecision (n := Id)
    ⟨"@emil @dora @carl", some "@emil"⟩ [] target
  rw [hlisted] at hcarl
  rw [hfailed] at hemil
  exact ⟨(hcarlDecision _).2 hcarl.symm, (hemilDecision _).2 hemil.symm⟩

end Answers

end TodoLedger
