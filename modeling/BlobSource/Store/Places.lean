import BlobSource.Text.Utf8

/-! A map from locations. Locations that begin alike share the way to where they part, so that a
look-up is as long as the location. -/
namespace BlobSource

/-- The names that lead from the root to a place, without dots or links. -/
abbrev Location := List Bytes

/-- The places with a common parent: each with its name, what lies there, if anything, and the
places below it. -/
inductive Places (α : Type) where
  | nil
  | place (name : Bytes) (here? : Option α) (below others : Places α)
  deriving DecidableEq, Repr

namespace Places
variable {α : Type}

def get? : Places α → Location → Option α
  | nil, _ => none
  | _, [] => none
  | place name here? below others, step :: rest =>
    if step = name then if rest = [] then here? else below.get? rest
    else others.get? (step :: rest)

def single (a? : Option α) : Location → Places α
  | [] => nil
  | step :: rest => place step (if rest = [] then a? else none) (single a? rest) nil

def set (a? : Option α) : Places α → Location → Places α
  | places, [] => places
  | nil, l => single a? l
  | place name here? below others, step :: rest =>
    if step = name then
      place name (if rest = [] then a? else here?) (below.set a? rest) others
    else place name here? below (others.set a? (step :: rest))

def under : Places α → Location → Places α
  | places, [] => places
  | nil, _ => nil
  | place name _ below others, step :: rest =>
    if step = name then below.under rest else others.under (step :: rest)

def toList : Places α → List (Location × α)
  | nil => []
  | place name here? below others =>
    here?.toList.map ([name], ·) ++ below.toList.map (fun (l, a) => (name :: l, a)) ++ others.toList

@[simp] theorem get?_nil (l : Location) : (nil : Places α).get? l = none := by
  cases l <;> rfl

@[simp] theorem get?_root (places : Places α) : places.get? [] = none := by
  cases places <;> rfl

theorem get?_single (a? : Option α) {l : Location} (hl : l ≠ []) (k : Location) :
    (single a? l).get? k = if k = l then a? else none := by
  induction l generalizing k with
  | nil => exact absurd rfl hl
  | cons step rest ih =>
    cases k with
    | nil => simp
    | cons other more =>
      by_cases hs : other = step
      · by_cases hr : rest = [] <;> by_cases hm : more = [] <;>
          simp_all [single, get?]
      · simp [single, get?, hs]

theorem get?_set (a? : Option α) (places : Places α) {l : Location} (hl : l ≠ [])
    (k : Location) : (places.set a? l).get? k = if k = l then a? else places.get? k := by
  induction places generalizing l k with
  | nil =>
    cases l with
    | nil => exact absurd rfl hl
    | cons step rest => rw [set, get?_single a? hl, get?_nil]; simp
  | place name here? below others ihb iho =>
    cases l with
    | nil => exact absurd rfl hl
    | cons step rest =>
      cases k with
      | nil => simp
      | cons other more =>
        by_cases hs : step = name
        · by_cases ho : other = name
          · by_cases hr : rest = [] <;> by_cases hm : more = [] <;> simp_all [set, get?]
          · have : other ≠ step := fun h => ho (h.trans hs)
            simp_all [set, get?]
        · by_cases ho : other = name
          · have : other ≠ step := fun h => hs (h.symm.trans ho)
            simp_all [set, get?]
          · simp [set, get?, hs, ho, iho]

end Places
end BlobSource
