import BlobSource.Reader
import Mathlib.Data.List.Basic

/-! The rows that some bytes fill, by the positions of their bytes. -/
namespace BlobSource

/-- The bytes of one row, of the rows that are counted from zero. -/
def rowAt (bytes : Bytes) (index : ℕ) : Bytes :=
  (bytes.drop (bytesPerRow * index)).take bytesPerRow

/-- The rows that the bytes fill or begin. -/
def allRows (bytes : Bytes) : List Bytes :=
  (List.range ((bytes.length + (bytesPerRow - 1)) / bytesPerRow)).map (rowAt bytes)

@[simp] theorem allRows_nil : allRows [] = [] := rfl

theorem allRows_of_ne_nil {bytes : Bytes} (h : bytes ≠ []) :
    allRows bytes = bytes.take bytesPerRow :: allRows (bytes.drop bytesPerRow) := by
  have hlength := List.length_pos_iff.2 h
  have hcount : (bytes.length + (bytesPerRow - 1)) / bytesPerRow =
      ((bytes.drop bytesPerRow).length + (bytesPerRow - 1)) / bytesPerRow + 1 := by
    rw [List.length_drop]
    unfold bytesPerRow
    omega
  have hnext : ∀ index, rowAt bytes (index + 1) = rowAt (bytes.drop bytesPerRow) index := by
    intro index
    rw [rowAt, rowAt, List.drop_drop, Nat.mul_succ, Nat.add_comm]
  have hrest := List.map_congr_left fun index (_ : index ∈ List.range
    (((bytes.drop bytesPerRow).length + (bytesPerRow - 1)) / bytesPerRow)) => hnext index
  rw [allRows, hcount, List.range_succ_eq_map, List.map_cons, List.map_map]
  exact congrArg (bytes.take bytesPerRow :: ·) hrest

theorem rowsOf_of_lt (keepsShort : Bool) {row bytes : Bytes}
    (h : row.length + bytes.length < bytesPerRow) :
    rowsOf keepsShort row (.ofList bytes) =
      if keepsShort ∧ row ++ bytes ≠ [] then .cons (row ++ bytes) fun _ => .nil else .nil := by
  induction bytes generalizing row with
  | nil => simp [Deferred.ofList, rowsOf]
  | cons b bytes ih =>
    rw [List.length_cons] at h
    have hrow : ¬ row.length + 1 = bytesPerRow := by omega
    rw [Deferred.ofList, rowsOf, if_neg hrow, ih (by simp; omega)]
    simp

theorem rowsOf_of_le (keepsShort : Bool) {row bytes : Bytes} (hrow : row.length < bytesPerRow)
    (h : bytesPerRow ≤ row.length + bytes.length) :
    rowsOf keepsShort row (.ofList bytes) =
      .cons (row ++ bytes.take (bytesPerRow - row.length)) fun _ =>
        rowsOf keepsShort [] (.ofList (bytes.drop (bytesPerRow - row.length))) := by
  induction bytes generalizing row with
  | nil =>
    rw [List.length_nil] at h
    omega
  | cons b bytes ih =>
    rw [Deferred.ofList, rowsOf]
    by_cases hlast : row.length + 1 = bytesPerRow
    · have hone : bytesPerRow - row.length = 1 := by omega
      rw [if_pos hlast, hone]
      rfl
    · have hmore : bytesPerRow - row.length = bytesPerRow - (row ++ [b]).length + 1 := by
        rw [List.length_append, List.length_singleton]
        omega
      rw [List.length_cons] at h
      rw [if_neg hlast, ih (by simp; omega) (by simp; omega), hmore, List.take_succ_cons,
        List.drop_succ_cons, List.append_assoc, List.singleton_append]

theorem toList_rowsOf_true (bytes : Bytes) :
    (rowsOf true [] (.ofList bytes)).toList = allRows bytes := by
  by_cases hnil : bytes = []
  · subst hnil
    rfl
  have hpos := List.length_pos_iff.2 hnil
  by_cases hfull : bytesPerRow ≤ bytes.length
  · have hrest := toList_rowsOf_true (bytes.drop bytesPerRow)
    rw [rowsOf_of_le true (by decide) (by simpa using hfull), allRows_of_ne_nil hnil, Deferred.toList]
    simpa using hrest
  · have hshort : bytes.length < bytesPerRow := Nat.lt_of_not_le hfull
    rw [rowsOf_of_lt true (by simpa using hshort), allRows_of_ne_nil hnil,
      List.take_of_length_le (Nat.le_of_lt hshort), List.drop_of_length_le (Nat.le_of_lt hshort)]
    simp [hnil, Deferred.toList]
termination_by bytes.length
decreasing_by
  rw [List.length_drop]
  exact Nat.sub_lt hpos (by decide)

theorem toList_rowsOf_false (bytes : Bytes) : (rowsOf false [] (.ofList bytes)).toList =
    allRows (bytes.take (bytesPerRow * (bytes.length / bytesPerRow))) := by
  by_cases hfull : bytesPerRow ≤ bytes.length
  · have hrest := toList_rowsOf_false (bytes.drop bytesPerRow)
    have hnext : bytes.length / bytesPerRow =
        (bytes.drop bytesPerRow).length / bytesPerRow + 1 := by
      rw [List.length_drop]
      unfold bytesPerRow at hfull ⊢
      omega
    generalize (bytes.drop bytesPerRow).length / bytesPerRow = count at hrest hnext
    have hne : bytes.take (bytesPerRow * (count + 1)) ≠ [] := by
      rw [← List.length_pos_iff, List.length_take]
      unfold bytesPerRow at hfull ⊢
      omega
    have hfirst : (bytes.take (bytesPerRow * (count + 1))).take bytesPerRow =
        bytes.take bytesPerRow := by
      rw [List.take_take, Nat.min_eq_left (Nat.le_mul_of_pos_right _ (Nat.succ_pos count))]
    have hlater : (bytes.take (bytesPerRow * (count + 1))).drop bytesPerRow =
        (bytes.drop bytesPerRow).take (bytesPerRow * count) := by
      rw [List.drop_take, Nat.mul_succ, Nat.add_sub_cancel]
    rw [rowsOf_of_le false (by decide) (by simpa using hfull), hnext, allRows_of_ne_nil hne, hfirst,
      hlater, Deferred.toList]
    simpa using hrest
  · have hshort : bytes.length < bytesPerRow := Nat.lt_of_not_le hfull
    rw [rowsOf_of_lt false (by simpa using hshort), Nat.div_eq_of_lt hshort, Nat.mul_zero,
      List.take_zero, allRows_nil]
    rfl
termination_by bytes.length
decreasing_by
  rw [List.length_drop]
  unfold bytesPerRow at hfull ⊢
  omega

theorem flatten_allRows (bytes : Bytes) : (allRows bytes).flatten = bytes := by
  rw [← toList_rowsOf_true, flatten_rowsOf]
  simp

end BlobSource
