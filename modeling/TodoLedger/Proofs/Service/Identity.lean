import TodoLedger.Proofs.Reading
import TodoLedger.Proofs.Service.Bulk

/-!
# The id of a to-do

A to-do is looked up by the bits of its id, but a set of ids reaches the tables as decimal numbers.
The two agree on the ids of rows that are not negative, and every id below `2^63` is one.

* `FollowsLookup`: the requests for one to-do succeed for the user whose it is, if the look-up of
  its id finds it in the state that they change, and fail if the look-up finds nothing.
* **Whatever the rows of to-dos are, the requests follow the look-up of an id if and only if the id
  is below `2^63` or the look-up finds no to-do** (`followsLookup_iff`). For a greater id they fail
  as if there were nothing, so a to-do in a row with a negative id is found and cannot be resolved
  (`lookup_finds_more`).
-/

namespace TodoLedger

open Ledger (Op idsOf)

variable {db : Database} {id : TodoId} {row : TodoRow} {user : UserId}

/-! ### Rows that an id names -/

/-- The ids below `2^63` are the ids of rows that are not negative. -/
theorem rowId_nonneg_iff : 0 ≤ rowId id ↔ id.toNat < 2 ^ 63 := by
  have hlt := id.toNat_lt
  have hvalue : (rowId id).toInt = (id.toNat : Int).bmod (2 ^ 64) :=
    BitVec.toInt_eq_toNat_bmod id.toBitVec
  rw [Int64.le_iff_toInt_le, Int64.toInt_zero, hvalue]
  by_cases hid : id.toNat < 2 ^ 63
  · rw [Int.bmod_eq_of_le] <;> omega
  · rw [Int.bmod_def, Int.emod_eq_of_lt] <;> omega

/-- An id below `2^63` names the row for which it is looked up. -/
theorem isNamed_singleton_of_lt (hid : id.toNat < 2 ^ 63) (row : TodoRow) :
    isNamed [id] row.id = decide (row.id = rowId id) := by
  rw [Bool.eq_iff_iff, isNamed_singleton_iff, decide_eq_true_eq]
  exact and_iff_right_of_imp fun h => h ▸ rowId_nonneg_iff.2 hid

/-- A greater id names no row. -/
theorem isNamed_singleton_of_le (hid : 2 ^ 63 ≤ id.toNat) (row : TodoRow) :
    isNamed [id] row.id = false := by
  rw [Bool.eq_false_iff, ne_eq, isNamed_singleton_iff]
  rintro ⟨hpositive, h⟩
  rw [h, rowId_nonneg_iff] at hpositive
  omega

/-- Where keys are distinct, the rows with a key are the one that is found by it, if any. -/
theorem filter_key_eq {α κ : Type} [DecidableEq κ] {key : α → κ} {rows : List α} (k : κ)
    (hkeys : (rows.map key).Nodup) :
    rows.filter (key · = k) = (rows.find? (key · = k)).toList := by
  induction rows with
  | nil => rfl
  | cons row rest ih =>
    rw [List.map_cons, List.nodup_cons] at hkeys
    by_cases hrow : key row = k
    · have hothers : rest.filter (key · = k) = [] := by
        rw [List.filter_eq_nil_iff]
        intro other hother hkey
        rw [decide_eq_true_eq] at hkey
        exact hkeys.1 (hrow.trans hkey.symm ▸ List.mem_map_of_mem hother)
      rw [List.filter_cons_of_pos (by simpa using hrow), hothers,
        List.find?_cons_of_pos (by simpa using hrow)]
      rfl
    · rw [List.filter_cons_of_neg (by simpa using hrow),
        List.find?_cons_of_neg (by simpa using hrow), ih hkeys.2]

/-! ### Requests for one to-do -/

namespace Service

namespace Bulk

variable (b : Bulk) {now : Int64}

/-- If the id names no row, the request fails. -/
theorem step_of_unnamed (now : Int64) (user : UserId)
    (hnone : ∀ row ∈ db.todos, isNamed [id] row.id = false) :
    Ledger.step now (b.op [id] user) db = .error (.todoNotFound id) := by
  have hrows : db.todos.filter (isNamed [id] ·.id) = [] := by
    rw [List.filter_eq_nil_iff]
    exact fun row hrow => Bool.eq_false_iff.1 (hnone row hrow)
  have hfind : db.todos.find? (isNamed [id] ·.id) = none := by
    rw [List.find?_eq_none]
    exact fun row hrow => Bool.eq_false_iff.1 (hnone row hrow)
  have hrefusal : Ledger.refusal? db user id = some (.todoNotFound id) := by
    rw [Ledger.refusal?, hfind]
  have hcheck : Ledger.checkOwnership db user [id] = .error (.todoNotFound id) := by
    have howners : Ledger.ownersOf (db.todos.filter (isNamed [id] ·.id)) = .ok [] := by
      rw [hrows, Ledger.ownersOf_nil]
    rw [checkOwnership_singleton howners, hrefusal]
  cases b <;> (rw [op, Ledger.step, hcheck]; rfl)

/-- If the id names one row, which is the user's, it is let pass. -/
theorem checkOwnership_of_named (hrow : db.todos.filter (isNamed [id] ·.id) = [row])
    (howner : row.userId = .ofId user) : Ledger.checkOwnership db user [id] = .ok () := by
  have howners : Ledger.ownersOf (db.todos.filter (isNamed [id] ·.id)) = .ok [user] := by
    rw [hrow, Ledger.ownersOf_eq_ok_iff, List.map_singleton, List.map_singleton, howner]
  have hfind : db.todos.find? (isNamed [id] ·.id) = some row := by
    rw [← List.head?_filter, hrow, List.head?_cons]
  have hrefusal : Ledger.refusal? db user id = none := by
    rw [Ledger.refusal?, hfind]
    exact if_pos (decide_eq_true howner)
  rw [checkOwnership_singleton howners, hrefusal]

/-- If the row is concerned as well, the request changes that. -/
theorem exists_step_of_named (now : Int64) (hrow : db.todos.filter (isNamed [id] ·.id) = [row])
    (howner : row.userId = .ofId user) (hconcerned : b.concerns row = true) :
    ∃ change, Ledger.step now (b.op [id] user) db = .ok change ∧
      outcomeOf [change.effect] = b.outcome [id] := by
  have hcheck := checkOwnership_of_named hrow howner
  have hnamed : isNamed [id] row.id = true := by
    have hmem : row ∈ db.todos.filter (isNamed [id] ·.id) := hrow ▸ List.mem_singleton_self row
    exact (List.mem_filter.1 hmem).2
  have hchanged : db.todos.filter (fun row => b.concerns row && isNamed [id] row.id) = [row] := by
    rw [← List.filter_filter, hrow, List.filter_cons_of_pos hconcerned, List.filter_nil]
  have howners : Ledger.ownersOf
      (db.todos.filter fun row => b.concerns row && isNamed [id] row.id) = .ok [user] := by
    rw [hchanged, Ledger.ownersOf_eq_ok_iff, List.map_singleton, List.map_singleton, howner]
  have hids : b.changed db [id] = [id] := by
    rw [changed, hchanged, idsOf, List.map_singleton, ascending_cons, ascending_nil,
      insertAscending, List.mem_singleton.1 (isNamed_iff.1 hnamed).2]
  obtain ⟨change, hstep⟩ : ∃ change, Ledger.step now (b.op [id] user) db = .ok change := by
    cases b <;>
      exact ⟨_, bind_eq_ok_iff.2 ⟨(), hcheck, bind_eq_ok_iff.2 ⟨[user], howners, rfl⟩⟩⟩
  refine ⟨change, hstep, ?_⟩
  rw [b.outcomeOf_step (Ledger.stepped_of_step hstep), hids]

/-- The state that a to-do must be in for the request to concern it. -/
def state : Bulk → TodoState
  | .resolve _ => .pending
  | .restore => .done

/-- A row is concerned if its to-do is in that state. -/
theorem concerns_of_shows {todo : Todo} (h : row.Shows todo) :
    b.concerns row = decide (todo.state = b.state) := by
  cases b with
  | resolve => exact h.isPending
  | restore => exact h.isDone

end Bulk

/-! ### Requests and the look-up -/

section LookUp

variable {σ : Type} (c : Collaborators (StateM σ)) (settings : Settings) (now : Int64) (s : State)
  (world : σ)

/-- What a user is answered who asks for one to-do. -/
def answer (b : Bulk) (id : TodoId) (user : UserId) : Except Error Outcome :=
  ((handle c settings now (b.event [id] user) s).run world).1.1

/-- The requests for a to-do find what looking it up finds. -/
structure FollowsLookup (id : TodoId) : Prop where
  /-- A to-do that is found, in the state that the request changes, is changed for its user. -/
  found : ∀ (b : Bulk) (todo : Todo), s.database.todo? id = .ok (some todo) →
    todo.state = b.state → answer c settings now s world b id todo.userId = .ok (b.outcome [id])
  /-- If nothing is found, no request succeeds. -/
  absent : s.database.todo? id = .ok none → ∀ (b : Bulk) (user : UserId),
    answer c settings now s world b id user = .error (.todoNotFound id)

variable {c} (htakes : TakesBatches c)

include htakes

/-- The answer is what the ledger says. -/
theorem answer_eq (b : Bulk) (id : TodoId) (user : UserId) :
    answer c settings now s world b id user =
      (Ledger.step now (b.op [id] user) s.database).map fun change =>
        outcomeOf [change.effect] := by
  rw [answer, b.run_handle htakes, Bulk.ops, List.isEmpty_cons, if_neg Bool.false_ne_true, report,
    conclude, Ledger.apply, Ledger.run]
  cases Ledger.step now (b.op [id] user) s.database <;> rfl

/-- **For an id of `2^63` or more every request fails.** -/
theorem answer_of_le (b : Bulk) {id : TodoId} (hid : 2 ^ 63 ≤ id.toNat) (user : UserId) :
    answer c settings now s world b id user = .error (.todoNotFound id) := by
  rw [answer_eq settings now s world htakes,
    b.step_of_unnamed now user fun row _ => isNamed_singleton_of_le hid row]
  rfl

/-- **For a lesser id the requests follow the look-up.** -/
theorem followsLookup_of_lt (hkeys : (s.database.todos.map (·.id)).Nodup) {id : TodoId}
    (hid : id.toNat < 2 ^ 63) : FollowsLookup c settings now s world id := by
  have hnamed : (isNamed [id] ·.id) = fun row : TodoRow => decide (row.id = rowId id) :=
    funext fun row => isNamed_singleton_of_lt hid row
  constructor
  · intro b todo htodo hstate
    rw [Database.todo?] at htodo
    split at htodo
    · cases htodo
    · next row hrow =>
      split at htodo
      · next hread =>
        cases htodo
        have hshows := TodoRow.shows_of_read hread
        have hfilter : s.database.todos.filter (isNamed [id] ·.id) = [row] := by
          rw [hnamed, filter_key_eq (rowId id) hkeys, hrow]
          rfl
        obtain ⟨change, hstep, houtcome⟩ := b.exists_step_of_named now hfilter hshows.userId
          ((b.concerns_of_shows hshows).trans (decide_eq_true hstate))
        rw [answer_eq settings now s world htakes, hstep, ← houtcome]
        rfl
      · cases htodo
  · intro habsent b user
    rw [Database.todo?] at habsent
    split at habsent
    · next hnone =>
      rw [List.find?_eq_none] at hnone
      have hunnamed : ∀ row ∈ s.database.todos, isNamed [id] row.id = false := by
        intro row hrow
        rw [isNamed_singleton_of_lt hid]
        exact Bool.eq_false_iff.2 (hnone row hrow)
      rw [answer_eq settings now s world htakes, b.step_of_unnamed now user hunnamed]
      rfl
    · split at habsent <;> cases habsent

/-- **The requests for a to-do follow the look-up of its id if and only if the id is below `2^63`,
or the look-up finds no to-do**, whatever the rows of to-dos are, as long as their ids are distinct.
For a greater id all requests fail. -/
theorem followsLookup_iff (hkeys : (s.database.todos.map (·.id)).Nodup) (id : TodoId) :
    (FollowsLookup c settings now s world id ↔
      id.toNat < 2 ^ 63 ∨ ∀ todo, s.database.todo? id ≠ .ok (some todo)) ∧
    (2 ^ 63 ≤ id.toNat → ∀ (b : Bulk) (user : UserId),
      answer c settings now s world b id user = .error (.todoNotFound id)) := by
  have hfails (hid : 2 ^ 63 ≤ id.toNat) (b : Bulk) (user : UserId) :
      answer c settings now s world b id user = .error (.todoNotFound id) :=
    answer_of_le settings now s world htakes b hid user
  refine ⟨⟨fun h => ?_, ?_⟩, hfails⟩
  · by_contra hfound
    push Not at hfound
    obtain ⟨hid, todo, htodo⟩ := hfound
    -- The to-do is pending or done, so one of the requests had to succeed, and both fail.
    have hchanged (b : Bulk) (hstate : todo.state = b.state) : False := by
      have hsucceeds := h.found b todo htodo hstate
      rw [hfails hid b todo.userId] at hsucceeds
      cases hsucceeds
    cases hstate : todo.state with
    | pending => exact hchanged (.resolve .apiDone) hstate
    | done => exact hchanged .restore hstate
  · rintro (hid | hnone)
    · exact followsLookup_of_lt settings now s world htakes hkeys hid
    · refine ⟨fun _ todo htodo => absurd htodo (hnone todo), fun habsent b user => ?_⟩
      rcases Nat.lt_or_ge id.toNat (2 ^ 63) with hid | hid
      · exact (followsLookup_of_lt settings now s world htakes hkeys hid).absent habsent b user
      · exact hfails hid b user

end LookUp

/-- The to-do with the greatest id that a row can have is found and restored. -/
theorem followsLookup_iff_greatest :
    let c : Collaborators (StateM Unit) := .builtIn {}
    let done : TodoRow := (TodoRow.ofNew 9223372036854775807 7
      ⟨1, 1, 1, .row .issue 5, none, .marked⟩).resolved 8 .markDone
    let s : State := { database := { todos := [TodoRow.ofNew (-1) 7
      ⟨1, 1, 1, .row .issue 6, none, .marked⟩, done] } }
    TakesBatches c ∧ (s.database.todos.map (·.id)).Nodup ∧
      FollowsLookup c {} 9 s () 9223372036854775807 ∧
      answer c {} 9 s () .restore 9223372036854775807 1 =
        .ok { restored := [9223372036854775807] } ∧
      ∀ user, answer c {} 9 s () .restore 18446744073709551615 user =
        .error (.todoNotFound 18446744073709551615) := by
  intro c done s
  have htakes : TakesBatches c := takesBatches_builtIn {}
  have hkeys : (s.database.todos.map (·.id)).Nodup := by decide +kernel
  have hfollows := (followsLookup_iff {} 9 s () htakes hkeys 9223372036854775807).1.2
    (.inl (by decide))
  have hfails := (followsLookup_iff {} 9 s () htakes hkeys 18446744073709551615).2 (by decide)
  have hread : done.read = .ok ⟨9223372036854775807, 1, 1, 1, .row .issue 5, none, .marked, .done,
      some .markDone, ⟨7, 0⟩, ⟨8, 0⟩⟩ := by decide +kernel
  have hfound : s.database.todo? 9223372036854775807 = .ok (some ⟨9223372036854775807, 1, 1, 1,
      .row .issue 5, none, .marked, .done, some .markDone, ⟨7, 0⟩, ⟨8, 0⟩⟩) := by
    have hrow : s.database.todos.find? (·.id = rowId 9223372036854775807) = some done := by
      decide +kernel
    rw [Database.todo?, hrow]
    simp only [hread]
  have hrestored := hfollows.found .restore _ hfound rfl
  exact ⟨htakes, hkeys, hfollows, hrestored, hfails .restore⟩

/-- A to-do in a row with a negative id is found, and its user cannot resolve it. -/
theorem lookup_finds_more :
    let c : Collaborators (StateM Unit) := .builtIn {}
    let s : State := { database := {
      users := [⟨1, "ada", false, 1, 0⟩]
      projects := [⟨1, "engine", "public", .integer 0⟩]
      todos := [TodoRow.ofNew (-1) 7 ⟨1, 1, 1, .row .issue 5, none, .marked⟩] } }
    (∃ todo, s.database.todo? 18446744073709551615 = .ok (some todo) ∧ todo.userId = 1 ∧
      todo.state = .pending) ∧
    answer c {} 8 s () (.resolve .apiDone) 18446744073709551615 1 =
      .error (.todoNotFound 18446744073709551615) ∧
    ¬FollowsLookup c {} 8 s () 18446744073709551615 := by
  intro c s
  have hfound : s.database.todo? 18446744073709551615 = .ok (some ⟨18446744073709551615, 1, 1, 1,
      .row .issue 5, none, .marked, .pending, none, ⟨7, 0⟩, ⟨7, 0⟩⟩) := by decide +kernel
  have hanswer : answer c {} 8 s () (.resolve .apiDone) 18446744073709551615 1 =
      .error (.todoNotFound 18446744073709551615) := by decide +kernel
  refine ⟨⟨_, hfound, rfl, rfl⟩, hanswer, fun h => ?_⟩
  have hresolved := h.found (.resolve .apiDone) _ hfound rfl
  rw [hanswer] at hresolved
  cases hresolved

end Service

end TodoLedger
