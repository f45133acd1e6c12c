/-! Finite sequences of which each element is made only when it is asked for. They are lists in
all but this: `ofList` and `toList` lose nothing, and each operation is that of lists. -/
namespace BlobSource

/-- A sequence whose first element is at hand, and the others once they are asked for. -/
inductive Deferred (α : Type) where
  | nil
  | cons (head : α) (rest : Unit → Deferred α)

namespace Deferred
variable {α β : Type}

def toList : Deferred α → List α
  | nil => []
  | cons a rest => a :: (rest ()).toList

def ofList : List α → Deferred α
  | [] => nil
  | a :: as => cons a fun _ => ofList as

/-- An element so many times. -/
def replicate : Nat → α → Deferred α
  | 0, _ => nil
  | n + 1, a => cons a fun _ => replicate n a

/-- The second sequence is not begun before the first is at its end. -/
def append : Deferred α → (Unit → Deferred α) → Deferred α
  | nil, other => other ()
  | cons a rest, other => cons a fun _ => (rest ()).append other

def map (f : α → β) : Deferred α → Deferred β
  | nil => nil
  | cons a rest => cons (f a) fun _ => (rest ()).map f

def ofParts (f : α → Deferred β) : List α → Deferred β
  | [] => nil
  | a :: as => (f a).append fun _ => ofParts f as

@[simp] theorem toList_ofList (as : List α) : (ofList as).toList = as := by
  induction as with
  | nil => rfl
  | cons a as ih => rw [ofList, toList, ih]

@[simp] theorem ofList_toList (d : Deferred α) : ofList d.toList = d := by
  induction d with
  | nil => rfl
  | cons a rest ih => rw [toList, ofList, ih]

theorem eq_of_toList_eq {d e : Deferred α} (h : d.toList = e.toList) : d = e := by
  rw [← ofList_toList d, h, ofList_toList]

@[simp] theorem toList_replicate (n : Nat) (a : α) :
    (replicate n a).toList = List.replicate n a := by
  induction n with
  | zero => rfl
  | succ n ih => rw [replicate, toList, ih, List.replicate_succ]

@[simp] theorem toList_append (d : Deferred α) (other : Unit → Deferred α) :
    (d.append other).toList = d.toList ++ (other ()).toList := by
  induction d with
  | nil => rfl
  | cons a rest ih => rw [append, toList, ih, toList, List.cons_append]

@[simp] theorem toList_map (f : α → β) (d : Deferred α) : (d.map f).toList = d.toList.map f := by
  induction d with
  | nil => rfl
  | cons a rest ih => rw [map, toList, ih, toList, List.map_cons]

@[simp] theorem toList_ofParts (f : α → Deferred β) (as : List α) :
    (ofParts f as).toList = as.flatMap fun a => (f a).toList := by
  induction as with
  | nil => rfl
  | cons a as ih => rw [ofParts, toList_append, ih, List.flatMap_cons]

end Deferred
end BlobSource
