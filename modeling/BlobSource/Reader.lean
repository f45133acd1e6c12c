import BlobSource.Content
import BlobSource.Error

/-! What a source hands over, piece by piece, and the rows of bytes it fills. -/
namespace BlobSource

/-- One answer of a source to a call for bytes. -/
inductive Delivery where
  | data (content : Content)
  /-- The call came back without bytes and is to be made again. -/
  | interruption
  deriving DecidableEq, Repr

namespace Delivery

def content : Delivery → Content
  | data content => content
  | interruption => .empty

end Delivery

def bytesPerRow : Nat := 12

/-- The rows that the bytes fill after those in the row in progress. Where the bytes end, a row
that is not full counts or is dropped. -/
def rowsOf (keepsShort : Bool) : Bytes → Deferred UInt8 → Deferred Bytes
  | row, .nil => if keepsShort ∧ row ≠ [] then .cons row fun _ => .nil else .nil
  | row, .cons b rest =>
    if row.length + 1 = bytesPerRow then
      .cons (row ++ [b]) fun _ => rowsOf keepsShort [] (rest ())
    else rowsOf keepsShort (row ++ [b]) (rest ())

theorem flatten_rowsOf (row : Bytes) (bytes : Deferred UInt8) :
    (rowsOf true row bytes).toList.flatten = row ++ bytes.toList := by
  induction bytes generalizing row with
  | nil => by_cases h : row = [] <;> simp [rowsOf, Deferred.toList, h]
  | cons b rest ih =>
    rw [rowsOf, Deferred.toList]
    split <;> simp [Deferred.toList, ih]

theorem length_of_mem_rowsOf {row : Bytes} {bytes : Deferred UInt8} {r : Bytes}
    (h : r ∈ (rowsOf false row bytes).toList) : r.length = bytesPerRow := by
  induction bytes generalizing row with
  | nil => simp [rowsOf, Deferred.toList] at h
  | cons b rest ih =>
    rw [rowsOf] at h
    split at h
    · rcases List.mem_cons.1 h with rfl | h
      · simpa using ‹_›
      · exact ih () h
    · exact ih () h

theorem length_bounds_of_mem_rowsOf {row : Bytes} {bytes : Deferred UInt8} {r : Bytes}
    (hrow : row.length < bytesPerRow) (h : r ∈ (rowsOf true row bytes).toList) :
    0 < r.length ∧ r.length ≤ bytesPerRow := by
  induction bytes generalizing row with
  | nil =>
    by_cases he : row = []
    · simp [rowsOf, Deferred.toList, he] at h
    · simp only [rowsOf, he, ne_eq, not_false_eq_true, and_self, if_true, Deferred.toList,
        List.mem_singleton] at h
      exact h ▸ ⟨List.length_pos_iff.2 he, Nat.le_of_lt hrow⟩
  | cons b rest ih =>
    rw [rowsOf] at h
    split at h
    · rcases List.mem_cons.1 h with rfl | h
      · simp [← ‹_ = bytesPerRow›]
      · exact ih () (by simp [bytesPerRow]) h
    · exact ih () (by simp only [List.length_append, List.length_singleton]; omega) h

/-- A source: its deliveries in order, and the failure that follows them, if not its end. -/
structure Reader where
  deliveries : List Delivery
  failure? : Option FileError
  deriving DecidableEq, Repr

namespace Reader

/-- A source that hands over all it holds at once. -/
def ofContent (content : Content) : Reader := ⟨[.data content], none⟩

/-- All bytes handed over, one by one. -/
def bytes (r : Reader) : Deferred UInt8 := .ofParts (·.content.deferred) r.deliveries

def size (r : Reader) : Nat := r.deliveries.foldr (·.content.size + ·) 0

theorem toList_bytes (r : Reader) :
    r.bytes.toList = r.deliveries.flatMap (·.content.toList) := by
  simp [bytes]

theorem length_bytes (r : Reader) : r.bytes.toList.length = r.size := by
  rw [toList_bytes, size]
  induction r.deliveries with
  | nil => rfl
  | cons d rest ih =>
    rw [List.flatMap_cons, List.length_append, Content.length_toList, ih, List.foldr_cons]

/-- The rows that are complete before the source ends or fails. A row that a failure cuts short
is dropped, and one that the end cuts short counts. -/
def rows (r : Reader) : Deferred Bytes := rowsOf r.failure?.isNone [] r.bytes

end Reader
end BlobSource
