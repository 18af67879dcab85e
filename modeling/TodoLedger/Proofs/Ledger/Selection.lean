import Mathlib.Data.List.Sort
import TodoLedger.Proofs.Ledger.OneByOne
import TodoLedger.Proofs.Ledger.Progress

/-!
# To-dos of one user

* `Database.Owns`: there is a to-do with the id, and it is the user's. `Database.Refuses`: the error
  that a set of ids makes on account of its least id for which that is not so.
* **A set of ids makes such an error, unless the user owns all of them** (`checkOwnership_cases`).
* `Database.rewriting`: all rows that a set of ids names are rewritten. **A revision that deletes no
  row rewrites just the rows that it reports** (`revised_eq_rewriting`).
* If the cached numbers are right, then a revision of one user's rows need count again for that user
  only (`Ledger.Ran.refresh_owned`).
-/

namespace TodoLedger

open Ledger (Op Run Ran revised refresh recount idsOf)

variable {db : Database} {user : UserId} {ids : List TodoId}

/-! ### Sets of ids -/

/-- Sets of ids with the same members are the same list. -/
theorem eq_of_mem_iff_of_pairwise {first second : List UInt64} (hfirst : first.Pairwise (· < ·))
    (hsecond : second.Pairwise (· < ·)) (h : ∀ id, id ∈ first ↔ id ∈ second) : first = second := by
  have : Std.Irrefl fun a b : UInt64 => a < b := ⟨UInt64.lt_irrefl⟩
  have : Std.Antisymm fun a b : UInt64 => a < b :=
    ⟨fun _ _ h h' => absurd h' (UInt64.lt_asymm h)⟩
  exact hfirst.eq_of_mem_iff hsecond h

/-- There is a to-do with the id, and it is the user's. -/
def Database.Owns (db : Database) (user : UserId) (id : TodoId) : Prop :=
  ∃ row, db.todoRow? id = some row ∧ row.belongsTo user = true

/-- The error on account of the least of the ids that is not that of a to-do of the user. -/
inductive Database.Refuses (db : Database) (user : UserId) (ids : List TodoId) : Error → Prop
  | notFound {id : TodoId} (hid : id ∈ ids)
    (hleast : ∀ other ∈ ids, other < id → db.Owns user other) (hnone : db.todoRow? id = none) :
    db.Refuses user ids (.todoNotFound id)
  | notOwned {id : TodoId} {row : TodoRow} (hid : id ∈ ids)
    (hleast : ∀ other ∈ ids, other < id → db.Owns user other) (hrow : db.todoRow? id = some row)
    (hforeign : row.belongsTo user = false) : db.Refuses user ids (.notOwned id user)

/-- There is an error only if the user does not own all to-dos. -/
theorem Database.Refuses.exists_not_owns {error : Error} (h : db.Refuses user ids error) :
    ∃ id ∈ ids, ¬ db.Owns user id := by
  cases h with
  | @notFound id hid _ hnone =>
    refine ⟨id, hid, ?_⟩
    rintro ⟨row, hrow, -⟩
    rw [hnone] at hrow
    cases hrow
  | @notOwned id row hid _ hrow hforeign =>
    refine ⟨id, hid, ?_⟩
    rintro ⟨found, hfound, hbelongs⟩
    rw [hrow, Option.some.injEq] at hfound
    rw [hfound, hbelongs] at hforeign
    cases hforeign

/-- The first id that is refused is the least. -/
theorem refuses_of_findSome? (hkeyed : Keyed (db.todos.map (·.id))) {error : Error}
    (h : (ascending ids).findSome? (Ledger.refusal? db user) = some error) :
    db.Refuses user ids error := by
  obtain ⟨before, id, after, hids, hrefusal, hbefore⟩ := List.findSome?_eq_some_iff.1 h
  have hascending := ascending_pairwise ids
  have hid : id ∈ ids := by
    rw [← mem_ascending, hids]
    simp
  have hleast : ∀ other ∈ ids, other < id → db.Owns user other := by
    intro other hother hlt
    rw [← mem_ascending, hids, List.mem_append, List.mem_cons] at hother
    rw [hids, List.pairwise_append, List.pairwise_cons] at hascending
    rcases hother with hother | rfl | hother
    · exact (refusal?_eq_none_iff hkeyed).1 (hbefore other hother)
    · exact absurd hlt (UInt64.lt_irrefl _)
    · exact absurd hlt (UInt64.lt_asymm (hascending.2.1.1 other hother))
  rw [refusal?_eq hkeyed] at hrefusal
  cases hrow : db.todoRow? id with
  | none =>
    rw [hrow] at hrefusal
    cases hrefusal
    exact .notFound hid hleast hrow
  | some row =>
    rw [hrow] at hrefusal
    by_cases hbelongs : row.belongsTo user = true
    · simp [hbelongs] at hrefusal
    · simp only [hbelongs] at hrefusal
      cases hrefusal
      exact .notOwned hid hleast hrow (Bool.eq_false_iff.2 hbelongs)

/-- **A set of ids makes an error, unless the user owns all to-dos.** -/
theorem checkOwnership_cases (hdb : WellFormed db) (user : UserId) (ids : List TodoId) :
    (∃ error, db.Refuses user ids error ∧ Ledger.checkOwnership db user ids = .error error) ∨
      ((∀ id ∈ ids, db.Owns user id) ∧ Ledger.checkOwnership db user ids = .ok ()) := by
  rw [checkOwnership_eq hdb]
  cases hrefusal : (ascending ids).findSome? (Ledger.refusal? db user) with
  | some error => exact .inl ⟨error, refuses_of_findSome? hdb.todos hrefusal, rfl⟩
  | none =>
    refine .inr ⟨fun id hid => ?_, rfl⟩
    rw [List.findSome?_eq_none_iff] at hrefusal
    exact (refusal?_eq_none_iff hdb.todos).1 (hrefusal id (mem_ascending.2 hid))

/-! ### Rows that are named -/

/-- The database with all rows rewritten that the ids name. -/
def Database.rewriting (ids : List TodoId) (f : TodoRow → TodoRow) (db : Database) : Database :=
  { db with todos := db.todos.map fun row => if isNamed ids row.id then f row else row }

/-- In a keyed table the ids of some rows name just these. -/
theorem isNamed_idsOf_filter (hkeyed : Keyed (db.todos.map (·.id))) (p : TodoRow → Bool)
    {row : TodoRow} (hrow : row ∈ db.todos) :
    isNamed (idsOf (db.todos.filter p)) row.id = p row := by
  have hfound : db.todoRow? (idOfRow row.id) = some row :=
    (todoRow?_eq_some_iff hkeyed).2 ⟨hrow, (rowId_idOfRow row.id).symm⟩
  rw [Bool.eq_iff_iff, isNamed_iff_mem hkeyed hfound, mem_idsOf_filter hkeyed, hfound]
  simp

/-- **A revision that deletes no row rewrites the rows whose ids it reports.** -/
theorem revised_eq_rewriting {now : Int64} {op : Op} {f : TodoRow → TodoRow}
    (hkeyed : Keyed (db.todos.map (·.id))) (h : ∀ row, op.rewrite now row = some (f row)) :
    revised now op db = db.rewriting (idsOf (db.todos.filter op.affects)) f := by
  have hnamed : ∀ row ∈ db.todos, (if op.affects row then f row else row) =
      if isNamed (idsOf (db.todos.filter op.affects)) row.id then f row else row := by
    intro row hrow
    rw [isNamed_idsOf_filter hkeyed op.affects hrow]
  rw [Ledger.revised_of_rewrite h, Database.rewriting, List.map_congr_left hnamed]

/-- No ids name any row. -/
theorem rewriting_nil (f : TodoRow → TodoRow) (db : Database) : db.rewriting [] f = db := by
  simp [Database.rewriting, isNamed]

section Rewriting

variable {f g : TodoRow → TodoRow}

/-- What becomes of named rows alone makes the difference. -/
theorem rewriting_congr (h : ∀ row ∈ db.todos, isNamed ids row.id = true → f row = g row) :
    db.rewriting ids f = db.rewriting ids g := by
  have hrows : ∀ row ∈ db.todos, (if isNamed ids row.id then f row else row) =
      if isNamed ids row.id then g row else row := by
    intro row hrow
    split
    · next hnamed => exact h row hrow hnamed
    · rfl
  rw [Database.rewriting, Database.rewriting, List.map_congr_left hrows]

variable (hid : ∀ row, (f row).id = row.id)

include hid

/-- Rows are found by the ids that they had. -/
theorem todoRow?_rewriting (ids : List TodoId) (db : Database) (id : TodoId) :
    (db.rewriting ids f).todoRow? id =
      (db.todoRow? id).map fun row => if isNamed ids row.id then f row else row := by
  have hkept : (fun row : TodoRow => decide (row.id = rowId id)) ∘
      (fun row => if isNamed ids row.id then f row else row) =
        fun row => decide (row.id = rowId id) := by
    funext row
    rw [Function.comp_apply]
    split
    · rw [hid]
    · rfl
  rw [Database.todoRow?, Database.rewriting, List.find?_map, hkept]
  rfl

/-- Rows that are rewritten twice. -/
theorem rewriting_rewriting (g : TodoRow → TodoRow) (ids : List TodoId) (db : Database) :
    (db.rewriting ids f).rewriting ids g = db.rewriting ids fun row => g (f row) := by
  have hrows : (fun row : TodoRow => if isNamed ids row.id then g row else row) ∘
      (fun row => if isNamed ids row.id then f row else row) =
        fun row => if isNamed ids row.id then g (f row) else row := by
    funext row
    rw [Function.comp_apply]
    by_cases hnamed : isNamed ids row.id = true
    · rw [if_pos hnamed, if_pos hnamed, hid, if_pos hnamed]
    · rw [if_neg hnamed, if_neg hnamed, if_neg hnamed]
  simp only [Database.rewriting, List.map_map, hrows]

end Rewriting

/-! ### Counting again -/

/-- What changes neither the owners nor the states of rows keeps the cached numbers true. -/
theorem Counted.rewriting {f : TodoRow → TodoRow} (hdb : Counted db)
    (huser : ∀ row, (f row).userId = row.userId) (hstate : ∀ row, (f row).state = row.state)
    (ids : List TodoId) : Counted (db.rewriting ids f) := by
  have hcount (id : Int64) (state : TodoState) :
      (db.rewriting ids f).countState id state = db.countState id state := by
    rw [Database.countState, Database.rewriting, List.countP_map]
    refine List.countP_congr fun row _ => ?_
    rw [Function.comp_apply]
    split
    · rw [huser, hstate]
    · rfl
  intro row hrow
  calc recount (db.rewriting ids f) row = recount db row := by simp only [recount, hcount]
    _ = row := hdb row hrow

namespace Ledger

/-- It does not matter in which order it is counted again, or how often. -/
theorem refresh_congr {first second : List UserId} (h : ∀ user, user ∈ first ↔ user ∈ second)
    (db : Database) : refresh first db = refresh second db := by
  have hnamed (row : UserRow) : isNamed first row.id = isNamed second row.id := by
    rw [Bool.eq_iff_iff, isNamed_iff, isNamed_iff, h]
  simp only [refresh, hnamed]

/-- Counting again for more users makes no difference to what was counted before. -/
theorem refresh_refresh {first users : List UserId} (h : first ⊆ users) (db : Database) :
    refresh users (refresh first db) = refresh users db := by
  have happend : refresh (first ++ users) db = refresh users (refresh first db) :=
    refresh_append rfl fun _ _ => rfl
  rw [← happend]
  refine refresh_congr (fun user => ?_) db
  rw [List.mem_append]
  exact ⟨fun hmem => hmem.elim (fun hfirst => h hfirst) id, .inr⟩

/-- Counting again in between makes no difference. -/
theorem refresh_rewriting (users : List UserId) (ids : List TodoId) (f : TodoRow → TodoRow)
    (db : Database) :
    refresh users ((refresh users db).rewriting ids f) = refresh users (db.rewriting ids f) := by
  have husers : (db.users.map fun row => if isNamed users row.id then recount db row else row).map
      (fun row => if isNamed users row.id then recount (db.rewriting ids f) row else row) =
        db.users.map fun row =>
          if isNamed users row.id then recount (db.rewriting ids f) row else row := by
    rw [List.map_map]
    refine List.map_congr_left fun row _ => ?_
    rw [Function.comp_apply]
    by_cases hnamed : isNamed users row.id = true
    · rw [if_pos hnamed, if_pos hnamed]
      exact if_pos hnamed
    · rw [if_neg hnamed]
  exact congrArg (fun users => { db.rewriting ids f with users }) husers

/-- **A revision that affects rows of one user only counts again for that user.** -/
theorem Ran.refresh_owned {now : Int64} {op : Op} {done : Run} (hwf : WellFormed db)
    (hcounted : Counted db) (hop : op.isRevision = true)
    (howned : ∀ row ∈ db.todos, op.affects row = true → row.belongsTo user = true)
    (h : Ran now db [op] done) :
    refresh done.touched done.database = refresh [user] (revised now op db) := by
  have hafter := hcounted.ran hwf h
  cases h with
  | @cons _ _ change _ _ hstep hrest =>
    cases hrest
    have htouched : change.touched ++ [] ⊆ [user] := by
      intro other hother
      rw [List.append_nil] at hother
      obtain ⟨row, hrow, haffects, hbelongs⟩ := hstep.exists_affected_of_touched hop hother
      exact List.mem_singleton.2 (TodoRow.eq_of_belongsTo hbelongs (howned row hrow haffects))
    rw [← hafter.refresh_eq [user], refresh_refresh htouched, ← hstep.eq_revised hop]

end Ledger

end TodoLedger
