import BlobSource.Deferred
import BlobSource.Text.Utf8

/-! What a file holds. -/
namespace BlobSource

/-- Some bytes of a file, or some zero bytes of which only the number is kept. -/
inductive Stretch where
  | bytes (bytes : Bytes)
  | zeros (count : Nat)
  deriving DecidableEq, Repr

namespace Stretch

def size : Stretch → Nat
  | bytes bs => bs.length
  | zeros n => n

def toList : Stretch → Bytes
  | bytes bs => bs
  | zeros n => List.replicate n 0

def deferred : Stretch → Deferred UInt8
  | bytes bs => .ofList bs
  | zeros n => .replicate n 0

@[simp] theorem length_toList (s : Stretch) : s.toList.length = s.size := by
  cases s <;> simp [toList, size]

@[simp] theorem toList_deferred (s : Stretch) : s.deferred.toList = s.toList := by
  cases s <;> simp [toList, deferred]

end Stretch

/-- The content of a file: its stretches, in order. -/
structure Content where
  stretches : List Stretch
  deriving DecidableEq, Repr

namespace Content

def empty : Content := ⟨[]⟩

def ofBytes (bytes : Bytes) : Content := ⟨[.bytes bytes]⟩

def zeros (count : Nat) : Content := ⟨[.zeros count]⟩

instance : Append Content := ⟨fun c d => ⟨c.stretches ++ d.stretches⟩⟩

def size (c : Content) : Nat := c.stretches.foldr (·.size + ·) 0

def toList (c : Content) : Bytes := c.stretches.flatMap Stretch.toList

/-- The bytes one by one, none of which is made before it is asked for. -/
def deferred (c : Content) : Deferred UInt8 := .ofParts Stretch.deferred c.stretches

@[simp] theorem length_toList (c : Content) : c.toList.length = c.size := by
  unfold toList size
  induction c.stretches with
  | nil => rfl
  | cons s rest ih =>
    rw [List.flatMap_cons, List.length_append, Stretch.length_toList, ih, List.foldr_cons]

@[simp] theorem toList_deferred (c : Content) : c.deferred.toList = c.toList := by
  simp [toList, deferred]

@[simp] theorem toList_empty : empty.toList = [] := rfl

@[simp] theorem toList_ofBytes (bs : Bytes) : (ofBytes bs).toList = bs := by
  simp [ofBytes, toList, Stretch.toList]

@[simp] theorem toList_zeros (n : Nat) : (zeros n).toList = List.replicate n 0 := by
  simp [zeros, toList, Stretch.toList]

@[simp] theorem toList_append (c d : Content) : (c ++ d).toList = c.toList ++ d.toList :=
  List.flatMap_append

end Content
end BlobSource
