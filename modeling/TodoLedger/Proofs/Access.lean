import TodoLedger.Proofs.Service.Disclosure
import TodoLedger.Proofs.Service.History

/-!
# Access grows with privileges

* `Viewer.Below`, `Project.Below`, `Target.Below`: the second is the first with more privileges,
  open to more users, or kept from fewer of them.
* **The access policy is monotone in all three** (`Viewer.canRead_mono`). The rules for members and
  those for everybody else are written apart, so this says also that nobody loses by becoming a
  member.
* A membership is local: it sets the level of one user in one project
  (`Database.memberLevel?_setMember`).
* **So nobody loses sight of a target by a membership that does not lower a level, and it makes no
  difference to other users and to other projects** (`access_grows`).
-/

namespace TodoLedger

/-! ### More privileges -/

/-- The greater it is, the more users a project is open to. -/
def Visibility.breadth : Visibility → Nat
  | .membersOnly => 0
  | .internal => 1
  | .everyone => 2

/-- The same user, with no privilege less. -/
structure Viewer.Below (viewer other : Viewer) : Prop where
  userId : other.userId = viewer.userId
  admin : viewer.admin = true → other.admin = true
  level : ∀ level, viewer.level = some level →
    ∃ higher, other.level = some higher ∧ higher.atLeast level = true

/-- A project that is open to no user less. -/
structure Project.Below (project other : Project) : Prop where
  visibility : project.visibility.breadth ≤ other.visibility.breadth
  repository : other.repositoryPrivate = true → project.repositoryPrivate = true

/-- An issue that is kept from no user more. -/
structure Issue.Below (issue other : Issue) : Prop where
  author : other.authorId = issue.authorId
  confidential : other.confidential = true → issue.confidential = true
  assignees : issue.assignees ⊆ other.assignees

/-- A target of the same kind that is kept from no user more. Only issues, and the designs of issues,
are kept from anybody on their own account. -/
inductive Target.Below : Target → Target → Prop
  | issue {issue other : Issue} (h : issue.Below other) : Below (.issue issue) (.issue other)
  | design {design other : Design} (h : design.issue.Below other.issue) :
    Below (.design design) (.design other)
  | mergeRequest (mr other : MergeRequest) : Below (.mergeRequest mr) (.mergeRequest other)
  | commit (commit other : Commit) : Below (.commit commit) (.commit other)
  | alert (alert other : Alert) : Below (.alert alert) (.alert other)
  | projectSnippet (snippet other : ProjectSnippet) :
    Below (.projectSnippet snippet) (.projectSnippet other)

/-- A viewer has no privilege less than themselves. -/
theorem Viewer.Below.refl (viewer : Viewer) : viewer.Below viewer where
  userId := rfl
  admin := id
  level level h := ⟨level, h, decide_eq_true (Int64.le_refl _)⟩

/-- A project is open to no user less than itself. -/
theorem Project.Below.refl (project : Project) : project.Below project := ⟨Nat.le_refl _, fun h => h⟩

/-- A target is kept from no user more than itself. -/
theorem Target.Below.refl (target : Target) : target.Below target := by
  have hissue (issue : Issue) : issue.Below issue := ⟨rfl, id, List.Subset.refl _⟩
  cases target with
  | issue issue => exact .issue (hissue issue)
  | design design => exact .design (hissue design.issue)
  | mergeRequest mr => exact .mergeRequest mr mr
  | commit commit => exact .commit commit commit
  | alert alert => exact .alert alert alert
  | projectSnippet snippet => exact .projectSnippet snippet snippet

/-! ### The policy -/

namespace Viewer

variable {viewer other : Viewer} {project wider : Project} {issue shared : Issue}
  {target freer : Target}

/-- A level that includes another includes what that includes. -/
theorem hasLevel_mono (h : viewer.Below other) {least : AccessLevel}
    (hlevel : viewer.hasLevel least = true) : other.hasLevel least = true := by
  obtain ⟨level, hmember, hleast⟩ := (Option.any_eq_true _ _).1 hlevel
  obtain ⟨higher, hhigher, hincludes⟩ := h.level level hmember
  refine (Option.any_eq_true _ _).2 ⟨higher, hhigher, ?_⟩
  rw [AccessLevel.atLeast, decide_eq_true_eq] at hleast hincludes ⊢
  exact Int64.le_trans hleast hincludes

/-- A project that is not kept to its members is not so when it is open to more users. -/
theorem visibility_mono (h : project.Below wider) (hopen : project.visibility ≠ .membersOnly) :
    wider.visibility ≠ .membersOnly := by
  have hbreadth := h.visibility
  intro hclosed
  rw [hclosed] at hbreadth
  cases hvisibility : project.visibility with
  | membersOnly => exact hopen hvisibility
  | internal | everyone =>
    rw [hvisibility] at hbreadth
    exact absurd hbreadth (by decide)

/-- Members stay members. -/
theorem isSome_level_mono (h : viewer.Below other) (hmember : viewer.level.isSome = true) :
    other.level.isSome = true := by
  obtain ⟨level, hlevel⟩ := Option.isSome_iff_exists.1 hmember
  obtain ⟨higher, hhigher, -⟩ := h.level level hlevel
  rw [hhigher]
  rfl

/-- Readers of a project stay so. -/
theorem canReadProject_mono (hviewer : viewer.Below other) (hproject : project.Below wider)
    (h : viewer.canReadProject project = true) : other.canReadProject wider = true := by
  rw [canReadProject, Bool.or_eq_true, decide_eq_true_eq] at h ⊢
  exact h.imp (visibility_mono hproject) (isSome_level_mono hviewer)

/-- Readers of a confidential issue stay so. -/
theorem canReadConfidential_mono (hviewer : viewer.Below other) (hissue : issue.Below shared)
    (h : viewer.canReadConfidential issue = true) : other.canReadConfidential shared = true := by
  simp only [canReadConfidential, Bool.or_eq_true, decide_eq_true_eq, List.contains_iff_mem,
    hviewer.userId, hissue.author] at h ⊢
  exact h.imp (Or.imp (hasLevel_mono hviewer) id) fun hassigned => hissue.assignees hassigned

/-- Readers of an issue stay so, also when it is no longer confidential. -/
theorem canReadIssue_mono (hviewer : viewer.Below other) (hproject : project.Below wider)
    (hissue : issue.Below shared) (h : viewer.canReadIssue project issue = true) :
    other.canReadIssue wider shared = true := by
  rw [canReadIssue, Bool.and_eq_true, Bool.or_eq_true, Bool.not_eq_true'] at h ⊢
  refine ⟨canReadProject_mono hviewer hproject h.1, ?_⟩
  rcases h.2 with hpublic | htrusted
  · refine .inl (Bool.eq_false_iff.2 fun hconfidential => ?_)
    rw [hissue.confidential hconfidential] at hpublic
    cases hpublic
  · exact .inr (canReadConfidential_mono hviewer hissue htrusted)

/-- Readers of the repository are the members from reporter up and, in a project that is not kept to
its members, all members, and everybody where the repository is not kept to them. -/
theorem canReadCode_iff : viewer.canReadCode project = true ↔
    viewer.hasLevel .reporter = true ∨ project.visibility ≠ .membersOnly ∧
      (viewer.level.isSome = true ∨ project.repositoryPrivate = false) := by
  rw [canReadCode, hasLevel]
  cases viewer.level with
  | none => simp
  | some level => simp

/-- Readers of the repository stay so. Who reads it as everybody does reads it as a member. -/
theorem canReadCode_mono (hviewer : viewer.Below other) (hproject : project.Below wider)
    (h : viewer.canReadCode project = true) : other.canReadCode wider = true := by
  rw [canReadCode_iff] at h ⊢
  rcases h with hlevel | ⟨hopen, hmember | hshared⟩
  · exact .inl (hasLevel_mono hviewer hlevel)
  · exact .inr ⟨visibility_mono hproject hopen, .inl (isSome_level_mono hviewer hmember)⟩
  · refine .inr ⟨visibility_mono hproject hopen, .inr (Bool.eq_false_iff.2 fun hprivate => ?_)⟩
    rw [hproject.repository hprivate] at hshared
    cases hshared

/-- **The access policy is monotone**: nobody loses access by a privilege, when the project is open
to more users, or when the target is kept from fewer of them. -/
theorem canRead_mono (hviewer : viewer.Below other) (hproject : project.Below wider)
    (htarget : target.Below freer) (h : viewer.canRead project target = true) :
    other.canRead wider freer = true := by
  rw [canRead.eq_def, Bool.and_eq_true, Bool.or_eq_true] at h ⊢
  obtain ⟨haccepts, hadmin | hread⟩ := h
  · refine ⟨?_, .inl (hviewer.admin hadmin)⟩
    cases htarget <;> exact haccepts
  · cases htarget with
    | issue hissue => exact ⟨rfl, .inr (canReadIssue_mono hviewer hproject hissue hread)⟩
    | design hissue => exact ⟨rfl, .inr (canReadIssue_mono hviewer hproject hissue hread)⟩
    | mergeRequest | commit => exact ⟨rfl, .inr (canReadCode_mono hviewer hproject hread)⟩
    | alert => exact ⟨rfl, .inr (hasLevel_mono hviewer hread)⟩
    | projectSnippet => cases hread

end Viewer

/-! ### Single changes -/

/-- A project that is opened is open to no user less. -/
theorem Project.below_opened {project : Project} {visibility : Visibility}
    (h : project.visibility.breadth ≤ visibility.breadth) :
    project.Below { project with visibility } := ⟨h, fun h => h⟩

/-- A project whose repository is kept to the members no longer is open to no user less. -/
theorem Project.below_shared (project : Project) :
    project.Below { project with repositoryPrivate := false } :=
  ⟨Nat.le_refl _, fun h => absurd h Bool.false_ne_true⟩

namespace Target

/-- The target, with no confidence about it. -/
def disclosed : Target → Target
  | .issue i => .issue { i with confidential := false }
  | .design d => .design { d with issue := { d.issue with confidential := false } }
  | target => target

/-- The target with other assignees; those of a design are those of its issue. -/
def mapAssignees (f : List UserId → List UserId) : Target → Target
  | .issue i => .issue { i with assignees := f i.assignees }
  | .design d => .design { d with issue := { d.issue with assignees := f d.issue.assignees } }
  | .mergeRequest mr => .mergeRequest { mr with assignees := f mr.assignees }
  | .alert a => .alert { a with assignees := f a.assignees }
  | .commit c => .commit c
  | .projectSnippet s => .projectSnippet s

/-- A target that is no longer confidential is kept from no user more. -/
theorem below_disclosed (target : Target) : target.Below target.disclosed := by
  have hissue (issue : Issue) : issue.Below { issue with confidential := false } :=
    ⟨rfl, fun h => absurd h Bool.false_ne_true, List.Subset.refl _⟩
  cases target with
  | issue issue => exact .issue (hissue issue)
  | design design => exact .design (hissue design.issue)
  | mergeRequest | commit | alert | projectSnippet => exact Below.refl _

/-- A target with further assignees is kept from no user more. -/
theorem below_mapAssignees {f : List UserId → List UserId} (h : ∀ users, users ⊆ f users)
    (target : Target) : target.Below (target.mapAssignees f) := by
  have hissue (issue : Issue) : issue.Below { issue with assignees := f issue.assignees } :=
    ⟨rfl, id, h _⟩
  cases target with
  | issue issue => exact .issue (hissue issue)
  | design design => exact .design (hissue design.issue)
  | mergeRequest mr => exact .mergeRequest mr _
  | alert alert => exact .alert alert _
  | commit | projectSnippet => exact Below.refl _

end Target

/-- The viewer reads the target also after a change for the wider. -/
structure Viewer.KeepsReading (viewer : Viewer) (project : Project) (target : Target) : Prop where
  /-- The project is opened. -/
  opened : ∀ visibility : Visibility, project.visibility.breadth ≤ visibility.breadth →
    viewer.canRead { project with visibility } target = true
  /-- The repository is kept to the members no longer. -/
  shared : viewer.canRead { project with repositoryPrivate := false } target = true
  /-- The target is no longer confidential. -/
  disclosed : viewer.canRead project target.disclosed = true
  /-- Further users are assigned to the target. -/
  assigned : ∀ f : List UserId → List UserId, (∀ users, users ⊆ f users) →
    viewer.canRead project (target.mapAssignees f) = true
  /-- The viewer becomes an administrator. -/
  promoted : canRead { viewer with admin := true } project target = true

/-- Whoever reads a target keeps reading it. -/
theorem Viewer.keepsReading {viewer : Viewer} {project : Project} {target : Target}
    (h : viewer.canRead project target = true) : viewer.KeepsReading project target where
  opened _ hbreadth := canRead_mono (.refl viewer) (Project.below_opened hbreadth) (.refl target) h
  shared := canRead_mono (.refl viewer) project.below_shared (.refl target) h
  disclosed := canRead_mono (.refl viewer) (.refl project) target.below_disclosed h
  assigned _ hf := canRead_mono (.refl viewer) (.refl project) (target.below_mapAssignees hf) h
  promoted := canRead_mono { Below.refl viewer with admin := fun _ => rfl } (.refl project)
    (.refl target) h

/-! ### Memberships -/

namespace Database

variable {db db' : Database} {project : ProjectId} {user : UserId} {level : AccessLevel}

/-- The row of a membership is that of one user in one project. -/
theorem isMembership_eq_true_iff {row : MemberRow} :
    isMembership project user row = true ↔
      row.projectId = .ofId project ∧ row.userId = .ofId user := by
  rw [isMembership, Bool.and_eq_true, decide_eq_true_eq, decide_eq_true_eq]

/-- The row of a membership is that of another one only if they are the same. -/
theorem isMembership_iff {row : MemberRow} {other : ProjectId} {member : UserId}
    (h : isMembership other member row = true) :
    isMembership project user row = true ↔ other = project ∧ member = user := by
  obtain ⟨hproject, huser⟩ := isMembership_eq_true_iff.1 h
  rw [isMembership_eq_true_iff, hproject, huser, Cell.ofId_inj, Cell.ofId_inj]

/-- The row of a membership that is there is found with its new level, and every other row as it
was. -/
theorem find?_isMembership_map {rows : List MemberRow}
    (hmember : rows.any (isMembership project user) = true) (other : ProjectId) (member : UserId) :
    (rows.map fun row => if isMembership project user row then
        { row with accessLevel := .integer level.code } else row).find? (isMembership other member) =
      if other = project ∧ member = user then
        some ⟨.ofId project, .ofId user, .integer level.code⟩
      else rows.find? (isMembership other member) := by
  let put (row : MemberRow) : MemberRow :=
    if isMembership project user row then { row with accessLevel := .integer level.code } else row
  have hkeys : isMembership other member ∘ put = isMembership other member := by
    funext row
    simp only [Function.comp_apply, put]
    split <;> rfl
  have hfind : (rows.map put).find? (isMembership other member) =
      (rows.find? (isMembership other member)).map put := by
    rw [List.find?_map, hkeys]
  rw [hfind]
  cases hrow : rows.find? (isMembership other member) with
  | none =>
    have hother : ¬(other = project ∧ member = user) := by
      rintro ⟨rfl, rfl⟩
      obtain ⟨row, hmem, hkey⟩ := List.any_eq_true.1 hmember
      exact List.find?_eq_none.1 hrow row hmem hkey
    rw [if_neg hother]
    rfl
  | some row =>
    have hkey := List.find?_some hrow
    rw [Option.map_some]
    by_cases hsame : other = project ∧ member = user
    · have hput : put row = { row with accessLevel := .integer level.code } :=
        if_pos ((isMembership_iff hkey).2 hsame)
      obtain ⟨hproject, huser⟩ := isMembership_eq_true_iff.1 hkey
      rw [if_pos hsame, hput, ← hsame.1, ← hsame.2, ← hproject, ← huser]
    · have hput : put row = row := if_neg fun h => hsame ((isMembership_iff hkey).1 h)
      rw [if_neg hsame, hput]

/-- The row of a new membership is found behind the others, and every other row as it was. -/
theorem find?_isMembership_append {rows : List MemberRow}
    (hnew : rows.any (isMembership project user) = false) (other : ProjectId) (member : UserId) :
    (rows ++ [(⟨.ofId project, .ofId user, .integer level.code⟩ : MemberRow)]).find?
        (isMembership other member) =
      if other = project ∧ member = user then
        some ⟨.ofId project, .ofId user, .integer level.code⟩
      else rows.find? (isMembership other member) := by
  have hkey : isMembership project user ⟨.ofId project, .ofId user, .integer level.code⟩ = true :=
    isMembership_eq_true_iff.2 ⟨rfl, rfl⟩
  rw [List.find?_append]
  by_cases hsame : other = project ∧ member = user
  · obtain ⟨rfl, rfl⟩ := hsame
    have hnone : rows.find? (isMembership other member) = none := by simpa using hnew
    rw [hnone, Option.none_or, List.find?_cons_of_pos hkey, if_pos ⟨rfl, rfl⟩]
  · have hforeign : ¬isMembership other member
        ⟨.ofId project, .ofId user, .integer level.code⟩ = true := by
      rw [isMembership_iff hkey]
      exact fun h => hsame ⟨h.1.symm, h.2.symm⟩
    rw [List.find?_cons_of_neg hforeign, List.find?_nil, Option.or_none, if_neg hsame]

/-- **After a membership was set its row is found**, and for every other one the row that was found
before. -/
theorem find?_isMembership_setMember (h : db.setMember project user level = .ok db')
    (other : ProjectId) (member : UserId) :
    db'.members.find? (isMembership other member) =
      if other = project ∧ member = user then
        some ⟨.ofId project, .ofId user, .integer level.code⟩
      else db.members.find? (isMembership other member) := by
  rw [setMember] at h
  split at h
  · next hmember =>
    cases h
    exact find?_isMembership_map hmember other member
  · next hnew =>
    split at h
    · cases h
      exact find?_isMembership_append (Bool.eq_false_iff.2 hnew) other member
    · cases h

/-- **A membership sets the level of one user in one project**, and no other. -/
theorem memberLevel?_setMember (h : db.setMember project user level = .ok db')
    (other : ProjectId) (member : UserId) :
    db'.memberLevel? other member =
      if other = project ∧ member = user then .ok (some level)
      else db.memberLevel? other member := by
  have hread : MemberRow.readLevel ⟨.ofId project, .ofId user, .integer level.code⟩ = .ok level := by
    cases level <;> rfl
  rw [memberLevel?, find?_isMembership_setMember h]
  by_cases hsame : other = project ∧ member = user
  · rw [if_pos hsame, if_pos hsame]
    simp only [hread]
  · rw [if_neg hsame, if_neg hsame]
    rfl

/-- A user sees what the policy of the project lets them read. -/
theorem canSee_eq {viewer : UserId} {target : Target} {account : User} {found : Project}
    {present : Option AccessLevel} (huser : db.user? viewer = some account)
    (hproject : db.project? target.projectId = .ok (some found))
    (hlevel : db.memberLevel? target.projectId viewer = .ok present) :
    db.canSee viewer target = .ok (Viewer.canRead ⟨viewer, account.admin, present⟩ found target) := by
  rw [canSee, huser, hproject]
  exact bind_eq_ok_iff.2 ⟨found, rfl, bind_eq_ok_iff.2 ⟨present, hlevel, rfl⟩⟩

/-- **A membership makes no difference to other users, and none to the targets of other
projects.** -/
theorem canSee_setMember_of_ne (h : db.setMember project user level = .ok db') {viewer : UserId}
    {target : Target} (hother : viewer ≠ user ∨ target.projectId ≠ project) :
    db'.canSee viewer target = db.canSee viewer target := by
  have hlevel : db'.memberLevel? target.projectId viewer =
      db.memberLevel? target.projectId viewer := by
    rw [memberLevel?_setMember h, if_neg]
    rintro ⟨hproject, huser⟩
    exact hother.elim (fun hne => hne huser) fun hne => hne hproject
  rw [canSee, canSee, hlevel, eq_of_setMember h]
  rfl

/-- The level is not below the one that the user has in the project, if they are a member. -/
def Raises (db : Database) (project : ProjectId) (user : UserId) (level : AccessLevel) : Prop :=
  ∀ present, db.memberLevel? project user = .ok (some present) → level.atLeast present = true

/-- **Who sees a target sees it after a membership that lowers no level.** -/
theorem canSee_setMember (h : db.setMember project user level = .ok db')
    (hraises : db.Raises project user level) {viewer : UserId} {target : Target}
    (hsees : db.canSee viewer target = .ok true) : db'.canSee viewer target = .ok true := by
  obtain ⟨account, found, present, haccount, hproject, hlevel, hread⟩ := canRead_of_canSee hsees
  by_cases hsame : target.projectId = project ∧ viewer = user
  · have hafter := memberLevel?_setMember h target.projectId viewer
    rw [if_pos hsame] at hafter
    have hbelow : Viewer.Below ⟨viewer, account.admin, present⟩
        ⟨viewer, account.admin, some level⟩ := by
      refine ⟨rfl, id, ?_⟩
      rintro level rfl
      rw [hsame.1, hsame.2] at hlevel
      exact ⟨_, rfl, hraises level hlevel⟩
    have haccount' : db'.user? viewer = some account := by
      rw [eq_of_setMember h]
      exact haccount
    have hproject' : db'.project? target.projectId = .ok (some found) := by
      rw [eq_of_setMember h]
      exact hproject
    rw [canSee_eq haccount' hproject' hafter,
      Viewer.canRead_mono hbelow (.refl found) (.refl target) hread]
  · rw [canSee_setMember_of_ne h (by tauto), hsees]

end Database

/-! ### After all calls -/

/-- **Access only grows with privileges, and where they are given.** After all calls, a membership
that does not lower the user's level in the project takes the sight of a target from nobody, and any
membership leaves all answers for other users and for targets of other projects as they were. And
whoever may read a target may still read it when the project or its repository is opened, when the
target is no longer confidential or is assigned to further users, and as an administrator. -/
theorem access_grows (calls : List Service.Call) (project : ProjectId) (user : UserId)
    (level : AccessLevel) :
    let s := Service.State.after calls
    let after := (Service.Call.perform s (.setMember project user level)).database
    (s.database.Raises project user level → ∀ viewer target,
      s.database.canSee viewer target = .ok true → after.canSee viewer target = .ok true) ∧
    (∀ viewer target, (viewer ≠ user ∨ target.projectId ≠ project) →
      after.canSee viewer target = s.database.canSee viewer target) ∧
    ∀ (viewer : Viewer) (found : Project) (target : Target),
      viewer.canRead found target = true → viewer.KeepsReading found target := by
  intro s after
  have hcases : after = s.database ∨
      ∃ db', s.database.setMember project user level = .ok db' ∧ after = db' := s.put_cases _
  refine ⟨fun hraises viewer target hsees => ?_, fun viewer target hother => ?_,
    fun viewer found target hread => Viewer.keepsReading hread⟩
  · rcases hcases with hkept | ⟨db', hset, hafter⟩
    · rw [hkept, hsees]
    · rw [hafter]
      exact Database.canSee_setMember hset hraises hsees
  · rcases hcases with hkept | ⟨db', hset, hafter⟩
    · rw [hkept]
    · rw [hafter]
      exact Database.canSee_setMember_of_ne hset hother

/-- Ada, a guest of a project that is kept to its members, becomes a reporter. Bob is no member. -/
theorem access_grows_reporter :
    let calls : List Service.Call := [.createUser "ada" false, .createUser "bob" false,
      .createProject "engine" .membersOnly true, .setMember 1 1 .guest]
    let s := Service.State.after calls
    let after := (Service.Call.perform s (.setMember 1 1 .reporter)).database
    let issue : Target := .issue { id := 5, projectId := 1, authorId := 2 }
    s.database.memberLevel? 1 1 = .ok (some .guest) ∧ s.database.Raises 1 1 .reporter ∧
      s.database.canSee 1 issue = .ok true ∧ after.canSee 1 issue = .ok true ∧
      s.database.canSee 2 issue = .ok false ∧ after.canSee 2 issue = .ok false ∧
      Viewer.KeepsReading ⟨1, false, some .guest⟩ ⟨1, "engine", .membersOnly, true⟩ issue := by
  intro calls s after issue
  obtain ⟨hmember, hothers, hpolicy⟩ := access_grows calls 1 1 .reporter
  have hlevel : s.database.memberLevel? 1 1 = .ok (some .guest) := by decide +kernel
  have hraises : s.database.Raises 1 1 .reporter := by
    intro present hpresent
    cases hlevel.symm.trans hpresent
    decide
  have hada : s.database.canSee 1 issue = .ok true := by decide +kernel
  have hbob : s.database.canSee 2 issue = .ok false := by decide +kernel
  exact ⟨hlevel, hraises, hada, hmember hraises 1 issue hada, hbob,
    (hothers 2 issue (.inl (by decide))).trans hbob, hpolicy _ _ issue (by decide +kernel)⟩

end TodoLedger
