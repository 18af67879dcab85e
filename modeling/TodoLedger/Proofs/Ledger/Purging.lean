import TodoLedger.Database.Snapshot
import TodoLedger.Proofs.Ledger.OneByOne
import TodoLedger.Proofs.Ledger.Progress

/-!
# Deleting the to-dos on a target

* A purge reports those who had a pending to-do on the target, each once, in ascending order
  (`WellFormed.mem_of_pendingOwners`, `WellFormed.pairwise_of_pendingOwners`).
* If the cached numbers are right, then a batch that counts again for those whom it touches counts
  again for all users (`Ledger.Ran.refresh_eq_recountAll`).
* **A purge deletes the rows on the target and no others, and counts again for all who had one,
  pending or done** (`exists_submit_purge`).
-/

namespace TodoLedger

open Ledger (Op Run Ran refresh recount pendingOwners)
open Snapshot (recountAll)

variable {db : Database} {user : UserId} {users : List UserId}

/-! ### Who is reported -/

/-- A user is reported if one of the rows is a pending one of theirs. -/
theorem mem_of_pendingOwners {rows : List TodoRow} (h : pendingOwners rows = .ok users) :
    user ∈ users ↔ ∃ row ∈ rows, row.isPending = true ∧ row.belongsTo user = true := by
  obtain ⟨owners, howners, h⟩ := bind_eq_ok_iff.1 h
  cases h
  rw [Ledger.ownersOf_eq_ok_iff] at howners
  have hrow : rowId user ∈ ascending (owners.map rowId) ↔ user ∈ owners := by
    rw [mem_ascending, List.mem_map]
    constructor
    · rintro ⟨owner, howner, hid⟩
      rwa [← idOfRow_rowId user, ← hid, idOfRow_rowId]
    · exact fun hmem => ⟨user, hmem, rfl⟩
  calc user ∈ (ascending (owners.map rowId)).map idOfRow
    _ ↔ rowId user ∈ ascending (owners.map rowId) := by
      rw [List.mem_map]
      constructor
      · rintro ⟨id, hid, rfl⟩
        rwa [rowId_idOfRow]
      · exact fun hmem => ⟨rowId user, hmem, idOfRow_rowId user⟩
    _ ↔ user ∈ owners := hrow
    _ ↔ .ofId user ∈ owners.map Cell.ofId := by simp [Cell.ofId_inj]
    _ ↔ ∃ row ∈ rows, row.isPending = true ∧ row.belongsTo user = true := by
      rw [← howners]
      simp [TodoRow.belongsTo, and_assoc]

/-- Whoever is reported comes before those with greater ids. -/
theorem WellFormed.pairwise_of_pendingOwners (hdb : WellFormed db) {p : TodoRow → Bool}
    (h : pendingOwners (db.todos.filter p) = .ok users) : users.Pairwise (· < ·) := by
  have hpositive : ∀ user ∈ users, 0 < rowId user := by
    intro user huser
    obtain ⟨row, hrow, -, hbelongs⟩ := (mem_of_pendingOwners h).1 huser
    obtain ⟨id, hid, hcell⟩ := (hdb.todoRows row (List.mem_filter.1 hrow).1).exists_recipient
    have howner : Cell.ofId user = .integer id := (of_decide_eq_true hbelongs).symm.trans hcell
    rw [Cell.integer.inj howner]
    exact hdb.users.positive id hid
  -- They are sorted as signed ids of rows, which agrees with the order of users if none is negative.
  obtain ⟨owners, -, h⟩ := bind_eq_ok_iff.1 h
  cases h
  rw [List.pairwise_map]
  refine (ascending_pairwise (owners.map rowId)).imp_of_mem fun hfirst _ hlt => ?_
  refine idOfRow_lt (Int64.le_of_lt ?_) hlt
  have hid := hpositive _ (List.mem_map_of_mem hfirst)
  rwa [rowId_idOfRow] at hid

/-! ### Counting again -/

/-- Counting again for those whom a batch touches leaves what counting for all users gives, if the
cached numbers were right before. -/
theorem Ledger.Ran.refresh_eq_recountAll {now : Int64} {ops : List Op} {done : Run}
    (hwf : WellFormed db) (hcounted : Counted db) (h : Ran now db ops done) :
    refresh done.touched done.database = recountAll done.database := by
  have hafter := hcounted.ran hwf h
  have husers : (refresh done.touched done.database).users =
      (recountAll done.database).users := by
    rw [refresh, recountAll]
    refine List.map_congr_left fun row hrow => ?_
    have hsame := hafter _ (List.mem_map_of_mem hrow)
    split
    · rfl
    · next hnot =>
      rw [if_neg hnot] at hsame
      exact hsame.symm
  exact congrArg (fun users => { done.database with users }) husers

/-! ### The purge -/

/-- The database without the to-dos on the target, after all users' to-dos were counted. -/
def Database.without (target : TargetRef) (db : Database) : Database :=
  recountAll { db with todos := db.todos.filter (!·.points target) }

/-- **A purge deletes the rows on the target, counts again, and reports in ascending order who had a
pending one.** -/
theorem exists_submit_purge (hwf : WellFormed db) (hcounted : Counted db) (target : TargetRef) :
    ∃ users, (∀ now, Ledger.submit now (.purgeTarget target) db =
        .ok (db.without target, .purged users)) ∧
      users.Pairwise (· < ·) ∧
      ∀ user, user ∈ users ↔ ∃ row ∈ db.todos,
        row.points target = true ∧ row.isPending = true ∧ row.belongsTo user = true := by
  obtain ⟨change, hpurge⟩ := Ledger.exists_purge hwf target
  obtain ⟨owners, howners, h⟩ := bind_eq_ok_iff.1 hpurge
  obtain ⟨users, husers, h⟩ := bind_eq_ok_iff.1 h
  cases h
  refine ⟨users, fun now => ?_, hwf.pairwise_of_pendingOwners husers, fun user => ?_⟩
  · have hstep : Ledger.step now (.purgeTarget target) db = _ := hpurge
    have hran : Ran now db [.purgeTarget target] _ := .cons (Ledger.stepped_of_step hstep) .nil
    have hcount := hran.refresh_eq_recountAll hwf hcounted
    rw [List.append_nil] at hcount
    rw [Ledger.submit_eq_applyOne]
    refine bind_eq_ok_iff.2 ⟨_, hpurge, ?_⟩
    exact congrArg (fun db => Except.ok (db, Ledger.Effect.purged users)) hcount
  · rw [mem_of_pendingOwners husers]
    simp [and_assoc]

end TodoLedger
