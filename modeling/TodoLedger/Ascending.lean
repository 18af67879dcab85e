/-!
# Sets as ascending lists

A finite set of ids or handles is kept as the strictly ascending list of its members, which is
also the order in which answers show it. `ascending` sorts a list and drops repetitions:
`mem_ascending` says that no member is gained or lost, `ascending_pairwise` that the result is
strictly ascending.
-/

namespace TodoLedger

variable {α : Type} [LT α] [DecidableLT α]

/-- Puts `a` in its place; a member that is there already is kept once. -/
def insertAscending (a : α) : List α → List α
  | [] => [a]
  | b :: rest =>
    if a < b then a :: b :: rest
    else if b < a then b :: insertAscending a rest
    else b :: rest

/-- The members of a list in ascending order, each once. -/
def ascending (members : List α) : List α := members.foldr insertAscending []

/-- The empty set. -/
@[simp] theorem ascending_nil : ascending ([] : List α) = [] := rfl

/-- A member more is put in its place. -/
@[simp] theorem ascending_cons (a : α) (members : List α) :
    ascending (a :: members) = insertAscending a (ascending members) := rfl

/-- A set with a member is not empty. -/
theorem insertAscending_ne_nil (a : α) (members : List α) : insertAscending a members ≠ [] := by
  cases members with
  | nil => simp [insertAscending]
  | cons b rest =>
    unfold insertAscending
    split
    · simp
    · split <;> simp

/-- Only the empty set has no members. -/
@[simp] theorem ascending_eq_nil_iff {members : List α} : ascending members = [] ↔ members = [] := by
  cases members with
  | nil => simp
  | cons a rest => simp [insertAscending_ne_nil]

section Membership

variable [Std.Trichotomous (α := α) (· < ·)]

/-- Putting a member in place adds it, and nothing else. -/
theorem mem_insertAscending {a x : α} {members : List α} :
    x ∈ insertAscending a members ↔ x = a ∨ x ∈ members := by
  induction members with
  | nil => simp [insertAscending]
  | cons b rest ih =>
    unfold insertAscending
    split
    · simp
    · next hab =>
      split
      · simp [ih]; grind
      · next hba =>
        have : a = b := Std.Trichotomous.trichotomous (r := (· < ·)) a b hab hba
        subst this
        simp

/-- **No member is gained or lost.** -/
@[simp] theorem mem_ascending {x : α} {members : List α} : x ∈ ascending members ↔ x ∈ members := by
  induction members with
  | nil => simp
  | cons a rest ih => simp [mem_insertAscending, ih]

end Membership

section Order

variable [Std.Trichotomous (α := α) (· < ·)] [Trans (α := α) (· < ·) (· < ·) (· < ·)]

/-- A member that is put in its place keeps the order. -/
theorem insertAscending_pairwise {a : α} {members : List α} (h : members.Pairwise (· < ·)) :
    (insertAscending a members).Pairwise (· < ·) := by
  induction members with
  | nil => simp [insertAscending]
  | cons b rest ih =>
    rw [List.pairwise_cons] at h
    unfold insertAscending
    split
    · next hab =>
      refine List.pairwise_cons.2 ⟨fun x hx => ?_, List.pairwise_cons.2 h⟩
      rcases List.mem_cons.1 hx with rfl | hx
      · exact hab
      · exact Trans.trans hab (h.1 x hx)
    · split
      · next hba =>
        refine List.pairwise_cons.2 ⟨fun x hx => ?_, ih h.2⟩
        rcases mem_insertAscending.1 hx with rfl | hx
        · exact hba
        · exact h.1 x hx
      · exact List.pairwise_cons.2 h

/-- The members of `ascending` are in strictly ascending order. -/
theorem ascending_pairwise (members : List α) : (ascending members).Pairwise (· < ·) := by
  induction members with
  | nil => simp
  | cons a rest ih => exact insertAscending_pairwise ih

end Order

/-- No id is twice in `ascending`. -/
theorem nodup_ascending (ids : List UInt64) : (ascending ids).Nodup :=
  (ascending_pairwise ids).imp fun hlt => UInt64.ne_of_lt hlt

end TodoLedger
