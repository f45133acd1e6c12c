import BlobSource.Content
import BlobSource.Path.Basic
import BlobSource.Store.Places

/-! A tree of files, as a map from locations to what lies there. -/
namespace BlobSource

inductive Device where
  /-- Reads as nothing and swallows what is written. -/
  | null
  /-- Reads as zero bytes without end, and never has room for what is written. -/
  | full
  /-- Can be opened, but no byte of it can be read or written. -/
  | memory
  /-- A file that shows its size and may not be opened. -/
  | locked (size : Nat)
  /-- A file of which only the sound beginning can be read, and nothing written. -/
  | faulty (size : Nat) (sound : Content)
  deriving DecidableEq, Repr

/-- What lies at a location. A file lies at one location only, which tells it from all others; at
every other name that it has, there is a hard link. -/
inductive Node where
  | directory
  | file (content : Content)
  | link (target : Path)
  | hardLink (home : Location)
  | device (device : Device)
  deriving DecidableEq, Repr

/-- The path that spells a location. -/
def Location.toPath (l : Location) : Path :=
  if l = [] then ⟨[Path.slash]⟩ else ⟨l.flatMap (Path.slash :: ·)⟩

/-- What lies at each location but the root, and the location that relative paths start from. -/
structure Store where
  places : Places Node
  here : Location
  deriving DecidableEq, Repr

namespace Store

def get? (s : Store) (l : Location) : Option Node :=
  if l = [] then some .directory else s.places.get? l

/-- Lays a node at a location, in place of what was there. -/
def put (s : Store) (l : Location) (n : Node) : Store :=
  { s with places := s.places.set (some n) l }

def erase (s : Store) (l : Location) : Store := { s with places := s.places.set none l }

def isDirectory (s : Store) (l : Location) : Bool :=
  match s.get? l with
  | some .directory => true
  | _ => false

/-- Where the file lies that has a name at the location. -/
def home (s : Store) (l : Location) : Location :=
  match s.get? l with
  | some (.hardLink home) => home
  | _ => l

/-- The entries below a location, each with the names that lead to it from there. -/
def below (s : Store) (l : Location) : List (Location × Node) := (s.places.under l).toList

@[simp] theorem get?_root (s : Store) : s.get? [] = some .directory := rfl

theorem get?_put (s : Store) (l k : Location) (n : Node) (hl : l ≠ []) :
    (s.put l n).get? k = if k = l then some n else s.get? k := by
  unfold get? put
  rw [Places.get?_set (some n) s.places hl]
  by_cases hk : k = l
  · subst hk
    simp [hl]
  · simp [hk]

end Store
end BlobSource
