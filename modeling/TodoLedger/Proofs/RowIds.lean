import Mathlib.Data.Finset.Card
import Mathlib.Data.Int.Interval
import TodoLedger.Database.Row

/-!
# The ids of the rows of a table

* **An id is read from the cell it was written to and from no other** (`Cell.id?_eq_ok_iff`).
* `Keyed ids`: a table has the ids that its rows were given, all positive and no two the same.
* An id is free as long as a table can have one more row (`exists_freeRowId?`), and it is greater
  than all that are taken, as long as the greatest of all is not (`lt_of_freeRowId?`).
* **A table stays keyed** (`Keyed.append_free`, `Keyed.sublist`): when it takes a row with a free id
  and when it loses rows.
* **A keyed table has fewer than `2^63` rows** (`Keyed.length_lt`), so that a number of its rows is
  never too large for a cell.
-/

namespace TodoLedger

variable {ids : List Int64} {id : Int64}

/-! ### Ids in cells -/

/-- Two cells with ids are the same if the ids are. -/
theorem Cell.ofId_inj {a b : UInt64} : Cell.ofId a = Cell.ofId b ↔ a = b := by
  constructor
  · intro h
    rw [← idOfRow_rowId a, ← idOfRow_rowId b, Cell.integer.inj h]
  · rintro rfl
    rfl

/-- An id is read from the cells that were written with it, and from no other. -/
theorem Cell.id?_eq_ok_iff {cell : Cell} {id : UInt64} : cell.id? = .ok id ↔ cell = .ofId id := by
  constructor
  · intro h
    cases cell with
    | integer value =>
      cases h
      rw [Cell.ofId, rowId_idOfRow]
    | real _ => cases h
    | text _ => cases h
  · rintro rfl
    exact Cell.id?_ofId id

/-- A set of ids names the row if it has the row's id, which must not be negative. -/
theorem isNamed_iff {named : List UInt64} :
    isNamed named id = true ↔ 0 ≤ id ∧ idOfRow id ∈ named := by
  simp [isNamed]

/-- One id names its row, unless that is negative. -/
theorem isNamed_singleton_iff {name : UInt64} :
    isNamed [name] id = true ↔ 0 ≤ id ∧ id = rowId name := by
  rw [isNamed_iff, List.mem_singleton]
  constructor
  · rintro ⟨hpositive, rfl⟩
    exact ⟨hpositive, (rowId_idOfRow id).symm⟩
  · rintro ⟨hpositive, rfl⟩
    exact ⟨hpositive, idOfRow_rowId name⟩

/-! ### Free ids -/

/-- The greatest of several ids is one of them, and no other is greater. -/
theorem foldl_max_spec (ids : List Int64) (first : Int64) :
    let greatest := ids.foldl (fun a b => if a < b then b else a) first
    greatest ∈ first :: ids ∧ ∀ id ∈ first :: ids, id ≤ greatest := by
  induction ids generalizing first with
  | nil => simp
  | cons id rest ih =>
    simp only [List.foldl_cons]
    obtain ⟨hmem, hle⟩ := ih (if first < id then id else first)
    by_cases hlt : first < id
    · rw [if_pos hlt] at hmem hle ⊢
      refine ⟨List.mem_cons_of_mem _ hmem, fun a ha => ?_⟩
      rcases List.mem_cons.1 ha with rfl | ha
      · exact Int64.le_trans (Int64.le_of_lt hlt) (hle id List.mem_cons_self)
      · exact hle a ha
    · rw [if_neg hlt] at hmem hle ⊢
      constructor
      · rcases List.mem_cons.1 hmem with hmem | hmem
        · rw [hmem]
          exact List.mem_cons_self
        · exact List.mem_cons_of_mem _ (List.mem_cons_of_mem _ hmem)
      · intro a ha
        rcases List.mem_cons.1 ha with rfl | ha
        · exact hle a List.mem_cons_self
        · rcases List.mem_cons.1 ha with rfl | ha
          · exact Int64.le_trans (Int64.not_lt.1 hlt) (hle first List.mem_cons_self)
          · exact hle a (List.mem_cons_of_mem _ ha)

/-- In a table with positive ids the next id is positive. -/
theorem nextRowId_pos (h : ∀ id ∈ ids, 0 < id) : 0 < nextRowId ids := by
  unfold nextRowId
  split
  · decide
  · next first rest =>
    have hfirst : 0 < first := h first List.mem_cons_self
    have hgreatest := (foldl_max_spec rest first).2 first List.mem_cons_self
    dsimp only
    split
    · next hmax =>
      rw [Int64.lt_iff_toInt_lt, Int64.toInt_maxValue] at hmax
      rw [Int64.lt_iff_toInt_lt, Int64.toInt_zero] at hfirst ⊢
      rw [Int64.le_iff_toInt_le] at hgreatest
      rw [Int64.toInt_add, Int64.toInt_one, Int.bmod_eq_of_le] <;> omega
    · generalize hfound : List.find? _ _ = found
      cases found with
      | none => decide
      | some id =>
        have := List.find?_some hfound
        simp only [Bool.and_eq_true, decide_eq_true_eq] at this
        exact this.1

/-- A free id is one that no row of the table has. -/
theorem not_mem_of_freeRowId? (h : freeRowId? ids = some id) : id ∉ ids := by
  simp only [freeRowId?] at h
  split at h
  · cases h
  · next hfree =>
    cases h
    simpa using hfree

/-- In a table with positive ids a free id is positive. -/
theorem freeRowId?_pos (h : ∀ id ∈ ids, 0 < id) (hid : freeRowId? ids = some id) : 0 < id := by
  simp only [freeRowId?] at hid
  split at hid
  · cases hid
  · cases hid
    exact nextRowId_pos h

/-- Before the ids run out, the next one is greater than all that are taken. -/
theorem lt_nextRowId (hids : ∀ a ∈ ids, a < Int64.maxValue) : ∀ a ∈ ids, a < nextRowId ids := by
  cases ids with
  | nil => simp
  | cons first rest =>
    obtain ⟨hmem, hle⟩ := foldl_max_spec rest first
    have hlt := hids _ hmem
    intro a ha
    have hgreatest := hle a ha
    dsimp only [nextRowId]
    rw [if_pos hlt]
    rw [Int64.lt_iff_toInt_lt, Int64.toInt_maxValue] at hlt
    rw [Int64.le_iff_toInt_le] at hgreatest
    have hleast := a.le_toInt
    rw [Int64.lt_iff_toInt_lt, Int64.toInt_add, Int64.toInt_one, Int.bmod_eq_of_le] <;> omega

/-- **Before the ids run out, a free id is greater than all that are taken.** -/
theorem lt_of_freeRowId? (hids : ∀ a ∈ ids, a < Int64.maxValue) (hid : freeRowId? ids = some id) :
    ∀ a ∈ ids, a < id := by
  simp only [freeRowId?] at hid
  split at hid
  · cases hid
  · cases hid
    exact lt_nextRowId hids

/-- Of more positive ids than a table has rows, one is free. -/
theorem exists_free_candidate (hlength : ids.length + 1 < 2 ^ 63) :
    ∃ id, (((List.range (ids.length + 1)).map fun n => Int64.ofNat (n + 1)).find? fun id =>
      0 < id && !ids.contains id) = some id := by
  have hcandidate : ∀ n < ids.length + 1, (Int64.ofNat (n + 1)).toInt = n + 1 := by
    intro n hn
    rw [Int64.toInt_ofNat_of_lt (by omega)]
    rfl
  rw [← Option.isSome_iff_exists, List.find?_isSome]
  by_contra hnone
  push Not at hnone
  have htaken : (List.range (ids.length + 1)).map (fun n => Int64.ofNat (n + 1)) ⊆ ids := by
    intro id hid
    have hfree := hnone id hid
    obtain ⟨n, hn, rfl⟩ := List.mem_map.1 hid
    have hpositive : 0 < Int64.ofNat (n + 1) := by
      rw [Int64.lt_iff_toInt_lt, hcandidate n (List.mem_range.1 hn), Int64.toInt_zero]
      omega
    rw [decide_eq_true hpositive, Bool.true_and] at hfree
    simpa using hfree
  have hnodup : ((List.range (ids.length + 1)).map fun n => Int64.ofNat (n + 1)).Nodup := by
    refine List.Nodup.map_on ?_ List.nodup_range
    intro a ha b hb hab
    have hsame := congrArg Int64.toInt hab
    rw [hcandidate a (List.mem_range.1 ha), hcandidate b (List.mem_range.1 hb)] at hsame
    omega
  have hle := (List.subperm_of_subset hnodup htaken).length_le
  rw [List.length_map, List.length_range] at hle
  omega

/-- **As long as a table can have one more row, an id is free.** -/
theorem exists_freeRowId? (hlength : ids.length + 1 < 2 ^ 63) : ∃ id, freeRowId? ids = some id := by
  have hfree : nextRowId ids ∉ ids := by
    by_cases hids : ∀ a ∈ ids, a < Int64.maxValue
    · exact fun hmem => Int64.lt_irrefl (lt_nextRowId hids _ hmem)
    · unfold nextRowId
      split
      · exact List.not_mem_nil
      · next first rest =>
        have hmax : ¬rest.foldl (fun a b => if a < b then b else a) first < Int64.maxValue :=
          fun hlt => hids fun a ha =>
            Int64.lt_of_le_of_lt ((foldl_max_spec rest first).2 a ha) hlt
        dsimp only
        rw [if_neg hmax]
        obtain ⟨id, hid⟩ := exists_free_candidate hlength
        rw [hid, Option.getD_some]
        have hcandidate := List.find?_some hid
        rw [Bool.and_eq_true] at hcandidate
        simpa using hcandidate.2
  refine ⟨nextRowId ids, ?_⟩
  simp [freeRowId?, hfree]

/-- Ids have the order of the ids of rows, of which none is negative. -/
theorem idOfRow_lt {a b : Int64} (ha : 0 ≤ a) (h : a < b) : idOfRow a < idOfRow b := by
  have hb : 0 ≤ b := Int64.le_of_lt (Int64.lt_of_le_of_lt ha h)
  have haInt := Int64.toInt_eq_toNatClampNeg ha
  have hbInt := Int64.toInt_eq_toNatClampNeg hb
  rw [Int64.lt_iff_toInt_lt] at h
  rw [UInt64.lt_iff_toNat_lt, idOfRow, idOfRow, Int64.toNat_toUInt64_of_le ha,
    Int64.toNat_toUInt64_of_le hb]
  omega

/-! ### Keyed tables -/

/-- The ids of the rows of a table: all positive, no two the same. -/
structure Keyed (ids : List Int64) : Prop where
  nodup : ids.Nodup
  positive : ∀ id ∈ ids, 0 < id

namespace Keyed

/-- A table without rows is keyed. -/
theorem nil : Keyed [] := ⟨List.nodup_nil, by simp⟩

/-- A keyed table may lose rows. -/
theorem sublist {kept : List Int64} (h : Keyed ids) (hkept : kept.Sublist ids) : Keyed kept :=
  ⟨h.nodup.sublist hkept, fun id hid => h.positive id (hkept.subset hid)⟩

/-- A keyed table may take a row with a free id. -/
theorem append_free (h : Keyed ids) (hid : freeRowId? ids = some id) : Keyed (ids ++ [id]) := by
  constructor
  · rw [← List.concat_eq_append, List.nodup_concat]
    exact ⟨not_mem_of_freeRowId? hid, h.nodup⟩
  · intro a ha
    rcases List.mem_append.1 ha with ha | ha
    · exact h.positive a ha
    · rw [List.mem_singleton] at ha
      subst ha
      exact freeRowId?_pos h.positive hid

/-- Rows of a keyed table that have the same id are the same. -/
theorem eq_of_id_eq {α : Type} {rows : List α} {key : α → Int64} (h : Keyed (rows.map key))
    {a b : α} (ha : a ∈ rows) (hb : b ∈ rows) (hab : key a = key b) : a = b :=
  List.inj_on_of_nodup_map h.nodup ha hb hab

/-- There are fewer than `2^63` positive ids. -/
theorem length_lt (h : Keyed ids) : ids.length < 2 ^ 63 := by
  have hnodup : (ids.map Int64.toInt).Nodup :=
    h.nodup.map fun a b hab => Int64.toInt_inj.1 hab
  have hsubset : (ids.map Int64.toInt).toFinset ⊆ Finset.Ioo 0 (2 ^ 63) := by
    intro n hn
    obtain ⟨id, hid, rfl⟩ := List.mem_map.1 (List.mem_toFinset.1 hn)
    have hpos := h.positive id hid
    rw [Int64.lt_iff_toInt_lt, Int64.toInt_zero] at hpos
    exact Finset.mem_Ioo.2 ⟨hpos, id.toInt_lt⟩
  have hcard := Finset.card_le_card hsubset
  rw [List.toFinset_card_of_nodup hnodup, List.length_map, Int.card_Ioo] at hcard
  omega

end Keyed

end TodoLedger
