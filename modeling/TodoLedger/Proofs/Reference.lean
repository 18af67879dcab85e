import TodoLedger.Proofs.Consistency
import TodoLedger.Proofs.Mention.RollCall
import TodoLedger.Proofs.Service.BuiltIn

/-!
# References of users

A user's reference is an `@` and the user's handle. A text mentions handles of one shape only
(`IsHandle`), but any text that nobody else has can be a user's handle.

* In the reference of a user with a handle of that shape the user is found (`found_reference`), and
  who is found in any text has such a handle (`isHandle_of_found`).
* **So a user's reference refers to the user and to nobody else if and only if their handle has the
  shape**, and no text refers to a user whose handle does not have it (`reference_refers_iff`). There
  are such users, and the reference of one can be that of another (`reference_refers_to_another`).
-/

namespace TodoLedger.Service

open Mention (IsHandle)

/-! ### Users to whom a text refers -/

section Users

variable {settings : Settings} {db : Database} {id : UserId} {user : User}

/-- No text refers to a user whose handle has not the shape of one. -/
theorem isHandle_of_mem_references (hdb : WellFormed db) (huser : db.user? id = some user)
    {text : String} (h : id ∈ ((answers settings db).references text).all) :
    IsHandle user.handle.toList := by
  obtain ⟨handle, hfound, hlookup⟩ := (answers settings db).mem_all_references.1 h
  obtain ⟨account, haccount, rfl⟩ := hdb.userId?_eq_some_iff.1 hlookup
  obtain rfl : account = user := Option.some.inj (haccount.symm.trans huser)
  exact Mention.isHandle_of_mem_scan hfound

/-- Who is found in a text has a handle of the right shape. -/
theorem isHandle_of_found (hdb : WellFormed db) (huser : db.user? id = some user) {text : String}
    {mentions : Mentions UserId} (h : found settings db text = .ok mentions)
    (hid : id ∈ mentions.all) : IsHandle user.handle.toList := by
  rw [found] at h
  split at h
  · obtain rfl := Except.ok.inj h
    exact isHandle_of_mem_references hdb huser hid
  · cases h

/-- In the reference of a user with a handle of the right shape that user is found. -/
theorem found_reference (hdb : WellFormed db) (huser : db.user? id = some user)
    (h : IsHandle user.handle.toList) :
    found settings db user.reference = .ok ⟨[id], []⟩ := by
  have hlookup : db.userId? user.handle = some id := hdb.userId?_eq_some_iff.2 ⟨user, huser, rfl⟩
  have hscan : Mention.scan settings.ignoreCodeBlocks user.reference = ⟨[user.handle], []⟩ :=
    Mention.scan_reference _ h
  have hhandles : (answers settings db).handles user.reference = ⟨[user.handle], []⟩ := hscan
  have husers : [user.handle].filterMap db.userId? = [id] := List.filterMap_cons_some hlookup
  have hresolves : settings.Resolves user.reference := by
    rw [Settings.Resolves, hscan]
    exact show (1 : Nat) ≤ Database.maxVariables by decide
  rw [found, if_pos hresolves, Answers.references, hhandles]
  change Except.ok (⟨ascending ([user.handle].filterMap db.userId?), []⟩ : Mentions UserId) = _
  rw [husers]
  rfl

end Users

/-! ### After all calls -/

/-- **A user's reference refers to the user and to nobody else if and only if their handle has the
shape of a handle.** After all calls, and with code ignored or not, the built-in collaborators answer
what is found in a text, unless it has too many handles, and that is never a user whose handle does
not have the shape. -/
theorem reference_refers_iff (calls : List Call) (settings : Settings) {user : User}
    (huser : (State.after calls).database.user? user.id = some user) :
    let db := (State.after calls).database
    (∀ (n : Type → Type) [Monad n] [LawfulMonad n] (text : String),
      (Collaborators.builtIn settings : Collaborators n).scan db text =
        ExceptT.mk (pure (found settings db text))) ∧
      (found settings db user.reference = .ok ⟨[user.id], []⟩ ↔ IsHandle user.handle.toList) ∧
      ∀ text mentions, found settings db text = .ok mentions → user.id ∈ mentions.all →
        IsHandle user.handle.toList := by
  intro db
  have hdb : WellFormed db := wellFormed_after calls
  refine ⟨fun n _ _ text => scan_builtIn settings db text, ⟨fun hfound => ?_, fun hhandle => ?_⟩,
    fun text mentions hfound hmem => isHandle_of_found hdb huser hfound hmem⟩
  · refine isHandle_of_found hdb huser hfound ?_
    rw [Mentions.mem_all]
    exact .inl (List.mem_singleton_self _)
  · exact found_reference hdb huser hhandle

/-- A user whose handle holds a dot and a hyphen, beside one whose handle is the part before them. -/
theorem reference_refers_iff_joints :
    let calls : List Call := [.createUser "ada" false, .createUser "ada.b-c" true]
    let db := (State.after calls).database
    let user : User := ⟨2, "ada.b-c", true, 0, 0⟩
    db.user? 2 = some user ∧ IsHandle user.handle.toList ∧
      found {} db "@ada.b-c" = .ok ⟨[2], []⟩ := by
  intro calls db user
  have huser : db.user? user.id = some user := by decide +kernel
  have hhandle : IsHandle user.handle.toList :=
    ⟨⟨'a', by decide, by decide⟩, ⟨'c', by decide, by decide⟩, List.all_eq_true.1 (by decide)⟩
  exact ⟨huser, hhandle, (reference_refers_iff calls {} huser).2.1.2 hhandle⟩

/-- **The reference of a user can be that of another**: who is called "ada." is referred to as ada
is. -/
theorem reference_refers_to_another :
    ¬ ∀ (calls : List Call) (settings : Settings) (user : User),
      (State.after calls).database.user? user.id = some user →
        (Collaborators.builtIn settings : Collaborators Id).scan (State.after calls).database
          user.reference = pure ⟨[user.id], []⟩ := by
  intro h
  let calls : List Call := [.createUser "ada" false, .createUser "ada." false]
  have hown := h calls {} ⟨2, "ada.", false, 0, 0⟩ (by decide +kernel)
  have hother : found {} (State.after calls).database "@ada." = .ok ⟨[1], []⟩ := by
    decide +kernel
  have hreference : (⟨2, "ada.", false, 0, 0⟩ : User).reference = "@ada." := rfl
  rw [scan_builtIn, hreference, hother] at hown
  have hsame : (⟨[1], []⟩ : Mentions UserId) = ⟨[2], []⟩ := Except.ok.inj hown
  exact absurd hsame (by decide)

end TodoLedger.Service
