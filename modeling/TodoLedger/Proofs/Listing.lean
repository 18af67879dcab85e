import Mathlib.Data.Prod.Lex
import TodoLedger.Proofs.Counters
import TodoLedger.Proofs.Reading

/-!
# The list of a user's to-dos

* `TodoRow.rank`: the order of the list is that of seconds and ids, of which no two rows have the
  same. So the list is sorted strictly (`pairwise_mergeSort_isBefore`), and **to leave out rows
  before it is sorted or afterwards is the same** (`filter_mergeSort`).
* `Database.IsListing`: a list that every filter narrows, that has all to-dos of the user and agrees
  with their numbers and with the question whether one is pending.
* **After all calls every user has such a list, newest first** (`listing_after`).
-/

namespace TodoLedger

variable {db : Database} {user : UserId} {rows : List TodoRow}

/-! ### The order of rows -/

/-- The second in which a row was put in. -/
def TodoRow.second (row : TodoRow) : ℤ :=
  match row.createdAt with
  | .integer second => second.toInt
  | .real _ | .text _ => 0

/-- The place of a row in the order of seconds and, within one second, of ids. -/
def TodoRow.rank (row : TodoRow) : ℤ ×ₗ ℤ := toLex (row.second, row.id.toInt)

/-- Rows with times that are seconds are compared by their rank. -/
theorem TodoRow.isBefore_eq {a b : TodoRow} (ha : a.Stamped fun _ => True)
    (hb : b.Stamped fun _ => True) : a.isBefore b = decide (b.rank ≤ a.rank) := by
  obtain ⟨first, hfirst, -⟩ := ha.created
  obtain ⟨second, hsecond, -⟩ := hb.created
  have hbelow : b.createdAt.isBelow a.createdAt = decide (second.toInt < first.toInt) := by
    rw [hfirst, hsecond, Cell.isBelow, decide_eq_decide, Int64.lt_iff_toInt_lt]
  have hsame : a.createdAt = b.createdAt ↔ second.toInt = first.toInt := by
    rw [hfirst, hsecond, Cell.integer.injEq, Int64.toInt_inj, eq_comm]
  rw [isBefore, hbelow, ← Bool.decide_and, ← Bool.decide_or, decide_eq_decide, hsame, rank, rank,
    Prod.Lex.toLex_le_toLex, Int64.le_iff_toInt_le]
  simp only [TodoRow.second, hfirst, hsecond]

/-- The list that is sorted newest first is sorted by rank. -/
theorem mergeSort_isBefore (hstamped : ∀ row ∈ rows, row.Stamped fun _ => True) :
    rows.mergeSort TodoRow.isBefore = rows.mergeSort fun a b => decide (b.rank ≤ a.rank) := by
  have hsame := List.map_mergeSort (f := id) (s := fun a b : TodoRow => decide (b.rank ≤ a.rank))
    fun a ha b hb => TodoRow.isBefore_eq (hstamped a ha) (hstamped b hb)
  rwa [List.map_id, List.map_id] at hsame

section Sorting

variable {α κ : Type} [LinearOrder κ] {key : α → κ} {members : List α}

/-- A sorted list has greater keys first. -/
theorem pairwise_mergeSort_key (key : α → κ) (members : List α) :
    (members.mergeSort fun a b => decide (key b ≤ key a)).Pairwise fun a b => key b ≤ key a := by
  have htrans (a b c : α) (hab : decide (key b ≤ key a) = true)
      (hbc : decide (key c ≤ key b) = true) : decide (key c ≤ key a) = true :=
    decide_eq_true ((of_decide_eq_true hbc).trans (of_decide_eq_true hab))
  have htotal (a b : α) : (decide (key b ≤ key a) || decide (key a ≤ key b)) = true := by
    simpa using le_total (key b) (key a)
  exact (List.pairwise_mergeSort htrans htotal members).imp of_decide_eq_true

/-- **Where members differ in their keys, leaving some out before sorting or afterwards is the
same.** -/
theorem filter_mergeSort (hkey : ∀ a ∈ members, ∀ b ∈ members, key a = key b → a = b)
    (p : α → Bool) :
    (members.filter p).mergeSort (fun a b => decide (key b ≤ key a)) =
      (members.mergeSort fun a b => decide (key b ≤ key a)).filter p := by
  have hperm := List.mergeSort_perm members fun a b => decide (key b ≤ key a)
  have hfiltered := List.mergeSort_perm (members.filter p) fun a b => decide (key b ≤ key a)
  -- Both lists are sorted, and have the same members, of which no two have the same key.
  refine List.Perm.eq_of_pairwise ?_ (pairwise_mergeSort_key key _)
    ((pairwise_mergeSort_key key members).filter p) (hfiltered.trans (hperm.filter p).symm)
  intro a b ha hb hba hab
  exact hkey a (List.mem_filter.1 (hfiltered.subset ha)).1 b
    (hperm.subset (List.mem_filter.1 hb).1) (le_antisymm hab hba)

end Sorting

/-! ### The order of to-dos -/

/-- The first to-do was made in a later second than the other, or in the same with a greater id. -/
def Todo.IsNewer (a b : Todo) : Prop :=
  b.createdAt.seconds < a.createdAt.seconds ∨ a.createdAt = b.createdAt ∧ b.id < a.id

/-- True of a second that a timestamp can tell. -/
def IsTold (second : Int64) : Prop :=
  Time.Timestamp.firstSecond ≤ second.toInt ∧ second.toInt ≤ Time.Timestamp.lastSecond

/-- A row of a greater rank shows a newer to-do. -/
theorem isNewer_of_rank_lt {a b : TodoRow} {first second : Todo} (hfirst : a.Shows first)
    (hsecond : b.Shows second) (ha : a.Stamped IsTold) (hb : b.Stamped IsTold)
    (hpositive : 0 < b.id) (h : b.rank < a.rank) : first.IsNewer second := by
  have hcreated {row : TodoRow} {todo : Todo} (hshows : row.Shows todo)
      (hstamped : row.Stamped IsTold) : todo.createdAt = ⟨row.second, 0⟩ := by
    obtain ⟨stamp, hstamp, htold⟩ := hstamped.created
    obtain ⟨shown, hshown, hcreatedAt⟩ := hshows.createdAt
    rw [hstamp, Cell.integer.injEq] at hshown
    subst hshown
    have hsecond : row.second = stamp.toInt := by rw [TodoRow.second, hstamp]
    rw [hcreatedAt, hsecond]
    exact if_pos htold
  rw [Todo.IsNewer, hcreated hfirst ha, hcreated hsecond hb, ← hfirst.id, ← hsecond.id]
  rw [TodoRow.rank, TodoRow.rank, Prod.Lex.toLex_lt_toLex] at h
  rcases h with hlater | ⟨hsame, hid⟩
  · exact .inl hlater
  · have hrowId : b.id < a.id := Int64.lt_iff_toInt_lt.2 hid
    exact .inr ⟨congrArg (Time.Timestamp.mk · 0) hsame.symm,
      idOfRow_lt (Int64.le_of_lt hpositive) hrowId⟩

/-- What is so of the rows in their order is so of the to-dos in theirs. -/
theorem pairwise_of_shows {todos : List Todo} {r : TodoRow → TodoRow → Prop}
    {t : Todo → Todo → Prop} (h : List.Forall₂ TodoRow.Shows rows todos) (hrows : rows.Pairwise r)
    (hrt : ∀ a b first second, a.Shows first → b.Shows second → r a b → t first second) :
    todos.Pairwise t := by
  induction h with
  | nil => exact .nil
  | @cons a first others rest hshows hothers ih =>
    rw [List.pairwise_cons] at hrows ⊢
    refine ⟨fun second hsecond => ?_, ih hrows.2⟩
    obtain ⟨b, hb, hshown⟩ : ∃ b ∈ others, b.Shows second := by
      clear ih hrows
      induction hothers with
      | nil => cases hsecond
      | cons hhead _ ih =>
        rcases List.mem_cons.1 hsecond with rfl | hsecond
        · exact ⟨_, List.mem_cons_self, hhead⟩
        · obtain ⟨b, hb, hshown⟩ := ih hsecond
          exact ⟨b, List.mem_cons_of_mem _ hb, hshown⟩
    exact hrt a b first second hshows hshown (hrows.1 b hb)

/-! ### The list -/

/-- The list of all to-dos of a user, and what is asked beside it. -/
structure Database.IsListing (db : Database) (user : UserId) (todos : List Todo) : Prop where
  /-- It is what is answered without a filter. -/
  unfiltered : db.todosOfUser user {} = .ok todos
  /-- A filter leaves out what it does not accept, and keeps the order. -/
  filtered : ∀ filter, db.todosOfUser user filter = .ok (todos.filter filter.accepts)
  /-- It has all to-dos of the user, each once. -/
  complete : ∃ records, db.records = .ok records ∧ todos.Perm (records.filter (·.userId = user))
  nodup : (todos.map (·.id)).Nodup
  /-- It shows the user's rows by the seconds in which they were put in, and within one second by
  their ids, the greatest first. -/
  ordered : ∃ rows, rows.Perm (db.todos.filter (·.belongsTo user)) ∧
    rows.Pairwise (fun a b => b.rank < a.rank) ∧ List.Forall₂ TodoRow.Shows rows todos
  /-- The numbers of to-dos are the lengths of the lists for the two states. -/
  counted : ∃ pending done counts, db.todosOfUser user { state := some .pending } = .ok pending ∧
    db.todosOfUser user { state := some .done } = .ok done ∧ db.countTodos user = .ok counts ∧
    counts.pending.toNat = pending.length ∧ counts.done.toNat = done.length
  /-- A pending to-do on a target is in it, if the user has one. -/
  pendingExists : ∀ target, db.pendingExists user target = true ↔
    ∃ todo ∈ todos, todo.isPending = true ∧ todo.target = target

/-- The rows of a user, newest first. -/
def Database.rowsOfUser (db : Database) (user : UserId) : List TodoRow :=
  (db.todos.filter (·.belongsTo user)).mergeSort fun a b => decide (b.rank ≤ a.rank)

/-- The rows in the list are those of the user. -/
theorem rowsOfUser_perm (db : Database) (user : UserId) :
    (db.rowsOfUser user).Perm (db.todos.filter (·.belongsTo user)) :=
  List.mergeSort_perm _ _

section Keyed

variable (hkeyed : Keyed (db.todos.map (·.id)))

include hkeyed

/-- No two rows have the same rank. -/
theorem eq_of_rank_eq {a b : TodoRow} (ha : a ∈ db.todos) (hb : b ∈ db.todos)
    (h : a.rank = b.rank) : a = b := by
  have hid : a.id.toInt = b.id.toInt := congrArg (fun rank => (ofLex rank).2) h
  exact hkeyed.eq_of_id_eq ha hb (Int64.toInt_inj.1 hid)

/-- **Each row of a user's list is newer than all that follow.** -/
theorem pairwise_rowsOfUser (user : UserId) :
    (db.rowsOfUser user).Pairwise fun a b => b.rank < a.rank := by
  have hperm := rowsOfUser_perm db user
  have hnodup : (db.rowsOfUser user).Nodup :=
    hperm.nodup_iff.2 (hkeyed.nodup.of_map.filter _)
  have hle : (db.rowsOfUser user).Pairwise fun a b => b.rank ≤ a.rank :=
    pairwise_mergeSort_key TodoRow.rank _
  refine (hle.and hnodup).imp_of_mem fun ha hb h => lt_of_le_of_ne h.1 fun hsame => ?_
  exact h.2 (eq_of_rank_eq hkeyed (List.mem_filter.1 (hperm.subset ha)).1
    (List.mem_filter.1 (hperm.subset hb)).1 hsame.symm)

/-- **A filter leaves out rows of the user's list.** -/
theorem todosOfUser_eq (hstamped : ∀ row ∈ db.todos, row.Stamped fun _ => True) (user : UserId)
    (filter : TodoFilter) : db.todosOfUser user filter =
      Database.readTodos (.loadTodosOfUser user) ((db.rowsOfUser user).filter filter.passes) := by
  have hrows : db.todos.filter (fun row => row.belongsTo user && filter.passes row) =
      (db.todos.filter (·.belongsTo user)).filter filter.passes := by
    rw [List.filter_filter]
    exact List.filter_congr fun row _ => Bool.and_comm _ _
  have hsorted : (db.todos.filter fun row => row.belongsTo user && filter.passes row).mergeSort
      TodoRow.isBefore = (db.rowsOfUser user).filter filter.passes := by
    rw [mergeSort_isBefore fun row hrow => hstamped row (List.mem_filter.1 hrow).1, hrows]
    exact filter_mergeSort (fun a ha b hb => eq_of_rank_eq hkeyed (List.mem_filter.1 ha).1
      (List.mem_filter.1 hb).1) _
  rw [Database.todosOfUser, hsorted]

end Keyed

/-- The list of a user is what the rows of the user show, newest first. -/
theorem isListing_of_shows (hwf : WellFormed db)
    (hstamped : ∀ row ∈ db.todos, row.Stamped fun _ => True) {records todos : List Todo}
    (hrecords : List.Forall₂ TodoRow.Shows db.todos records)
    (htodos : List.Forall₂ TodoRow.Shows (db.rowsOfUser user) todos)
    (hperm : todos.Perm (records.filter (·.userId = user))) : db.IsListing user todos := by
  have hfiltered (filter : TodoFilter) :
      db.todosOfUser user filter = .ok (todos.filter filter.accepts) := by
    rw [todosOfUser_eq hwf.todos hstamped]
    exact readTodos_of_shows _ (forall₂_filter htodos fun row todo h => h.passes filter)
  have haccepts (state : TodoState) :
      ({ state := some state } : TodoFilter).accepts = fun todo => decide (todo.state = state) := by
    funext todo
    simp [TodoFilter.accepts]
  have hcount (state : TodoState) :
      db.countState (rowId user) state = (todos.filter (·.state = state)).length := by
    have hstate : ∀ row todo, TodoRow.Shows row todo →
        decide (row.state = state.name) = decide (todo.state = state) := by
      intro row todo h
      rw [h.state, decide_eq_decide]
      exact ⟨TodoState.name_injective, congrArg _⟩
    rw [countState_eq, idOfRow_rowId, ← (rowsOfUser_perm db user).countP_eq,
      countP_eq_of_shows htodos hstate, List.countP_eq_length_filter]
  have hlt (state : TodoState) : db.countState (rowId user) state < 2 ^ 63 := countP_lt hwf _
  have hlength (state : TodoState) :
      (idOfRow (Int64.ofNat (db.countState (rowId user) state))).toNat =
        (todos.filter (·.state = state)).length := by
    rw [toNat_idOfRow_ofNat (hlt state), hcount]
  refine {
    unfiltered := ?_
    filtered := hfiltered
    complete := ⟨records, mapM_read_eq_ok_iff.2 hrecords, hperm⟩
    nodup := ?_
    ordered := ⟨_, rowsOfUser_perm db user, pairwise_rowsOfUser hwf.todos user, htodos⟩
    counted := ⟨_, _, _, hfiltered { state := some .pending }, hfiltered { state := some .done },
      countTodos_of_wellFormed hwf user, ?_, ?_⟩
    pendingExists := fun target => ?_ }
  · rw [hfiltered]
    have hall : todos.filter ({} : TodoFilter).accepts = todos := by simp [TodoFilter.accepts]
    rw [hall]
  · have hkeys : ((db.rowsOfUser user).map (·.id)).Nodup :=
      ((rowsOfUser_perm db user).map _).nodup_iff.2
        (hwf.todos.nodup.sublist (List.filter_sublist.map _))
    exact nodup_of_shows htodos hkeys
  · rw [haccepts]
    exact hlength .pending
  · rw [haccepts]
    exact hlength .done
  · rw [pendingExists_iff hrecords]
    simp only [hperm.mem_iff, List.mem_filter, decide_eq_true_eq]
    constructor
    · rintro ⟨todo, hmem, huser, hpending, hon⟩
      exact ⟨todo, ⟨hmem, huser⟩, hpending, hon⟩
    · rintro ⟨todo, ⟨hmem, huser⟩, hpending, hon⟩
      exact ⟨todo, hmem, huser, hpending, hon⟩

namespace Service

/-- The call is told a time that a timestamp can tell, as every clock shows, or none. -/
def Call.IsTimely (call : Call) : Prop := ∀ now ∈ call.time?, IsTold now

/-- **Listing and counting agree.** After all calls a user's to-dos are listed newest first, every
filter leaves out just what it does not accept, and their numbers and the question whether one is
pending on a target are answered as by the list. -/
theorem listing_after (calls : List Call) (user : UserId) :
    let db := (State.after calls).database
    ∃ todos, db.IsListing user todos ∧
      ((∀ call ∈ calls, call.IsTimely) → todos.Pairwise Todo.IsNewer) := by
  intro db
  have hwf : WellFormed db := wellFormed_after calls
  have hstamped : ∀ row ∈ db.todos, row.Stamped fun _ => True :=
    stamped_after fun _ _ _ _ => trivial
  obtain ⟨records, hread⟩ := exists_records_after calls
  have hrecords := mapM_read_eq_ok_iff.1 hread
  have hperm := rowsOfUser_perm db user
  obtain ⟨todos, htodos, hsame⟩ :=
    exists_shows_of_perm (forall₂_filter hrecords fun row todo h => h.belongsTo user) hperm
  refine ⟨todos, isListing_of_shows hwf hstamped hrecords htodos hsame, fun htimely => ?_⟩
  have htold : ∀ row ∈ db.todos, row.Stamped IsTold := stamped_after htimely
  have hmem {row : TodoRow} (hrow : row ∈ db.rowsOfUser user) : row ∈ db.todos :=
    (List.mem_filter.1 (hperm.subset hrow)).1
  have hpairwise := (pairwise_rowsOfUser hwf.todos user).imp_of_mem
    (S := fun a b => b.rank < a.rank ∧ a ∈ db.todos ∧ b ∈ db.todos)
    fun ha hb h => ⟨h, hmem ha, hmem hb⟩
  refine pairwise_of_shows htodos hpairwise fun a b first second hfirst hsecond h => ?_
  exact isNewer_of_rank_lt hfirst hsecond (htold a h.2.1) (htold b h.2.2)
    (hwf.todos.positive _ (List.mem_map_of_mem h.2.2)) h.1

/-- Two to-dos of one second and one of the next, of which the first is done. -/
theorem listing_after_two_seconds :
    let calls : List Call := [.createUser "ada" false, .createProject "engine" .everyone false,
      .apply 7 [.upsert ⟨1, 1, 1, .row .issue 5, none, .assigned⟩,
        .upsert ⟨1, 1, 1, .row .mergeRequest 5, none, .mentioned⟩],
      .apply 8 [.upsert ⟨1, 1, 1, .row .issue 6, none, .mentioned⟩,
        .resolveCollection [1] 1 .markDone]]
    let db := (State.after calls).database
    (∀ call ∈ calls, call.IsTimely) ∧
      ∃ todos, db.IsListing 1 todos ∧ todos.Pairwise Todo.IsNewer ∧
        todos.length = 3 := by
  intro calls db
  have htimely : ∀ call ∈ calls, call.IsTimely := by
    have htold : IsTold 7 ∧ IsTold 8 := by
      unfold IsTold
      decide
    simp [calls, Call.IsTimely, Call.time?, htold]
  obtain ⟨todos, hlisting, hnewer⟩ := listing_after calls 1
  obtain ⟨rows, hperm, -, hshows⟩ := hlisting.ordered
  have hlength : (db.todos.filter (·.belongsTo 1)).length = 3 := by decide +kernel
  exact ⟨htimely, todos, hlisting, hnewer htimely,
    hshows.length_eq.symm.trans (hperm.length_eq.trans hlength)⟩

end Service

end TodoLedger
