import BlobSource.Error
import BlobSource.Store.Basic

/-! Where a path leads: one step at a time, through directories and links. -/
namespace BlobSource

inductive Step where
  | down (name : Bytes)
  | stay
  | up
  /-- The slash at the end, which only a directory may have before it. -/
  | finalSlash
  deriving DecidableEq, Repr

def Step.ofPiece (piece : Bytes) : Step :=
  if piece = Path.currentName then .stay
  else if piece = Path.parentName then .up
  else .down piece

def Path.steps (p : Path) : List Step :=
  let body := ((pieces p.bytes).filter (· ≠ [])).map Step.ofPiece
  if p.endsInSlash then body ++ [.finalSlash] else body

/-- What the place is wanted for: only a writer may be led to one where nothing lies yet. -/
inductive Purpose where
  | reading
  | writing
  deriving DecidableEq, Repr

inductive Place where
  | present (location : Location)
  | vacant (location : Location)
  deriving DecidableEq, Repr

namespace Store

def maxName : Nat := 255

/-- The length from which on a path is too long. -/
def maxPath : Nat := 4096

def maxLinks : Nat := 40

/-- Walks along the steps and leaves it to `follow` to go on at a link. A new file cannot be
written where a final slash asks for a directory. -/
def walkWith (s : Store) (purpose : Purpose)
    (follow : Location → List Step → Except FileError Place) :
    Location → List Step → Except FileError Place
  | l, [] => .ok (.present l)
  | l, step :: rest =>
    if !s.isDirectory l then .error .notDirectory
    else match step with
      | .stay | .finalSlash => walkWith s purpose follow l rest
      | .up => walkWith s purpose follow l.dropLast rest
      | .down name =>
        if purpose = .writing ∧ rest = [.finalSlash] then .error .isDirectory
        else if maxName < name.length then .error .nameTooLong
        else match s.get? (l ++ [name]) with
          | none =>
            if purpose = .writing ∧ rest = [] then .ok (.vacant (l ++ [name]))
            else .error .notFound
          | some (.link target) =>
            follow (if target.isAbsolute then [] else l) (target.steps ++ rest)
          | some _ => walkWith s purpose follow (l ++ [name]) rest

/-- Walks along the steps, through at most the given number of links. -/
def walk (s : Store) (purpose : Purpose) : Nat → Location → List Step → Except FileError Place
  | 0, l, steps => s.walkWith purpose (fun _ _ => .error .tooManyLinks) l steps
  | links + 1, l, steps => s.walkWith purpose (s.walk purpose links) l steps

/-- The place that a path leads to, by the name of that place. -/
def reach (s : Store) (purpose : Purpose) (p : Path) : Except FileError Place :=
  if 0 ∈ p.bytes then .error .zeroByte
  else if p.bytes = [] then .error .notFound
  else if maxPath ≤ p.bytes.length then .error .nameTooLong
  else s.walk purpose maxLinks (if p.isAbsolute then [] else s.here) p.steps

/-- The place that a path leads to, which is the same under all names of a file. -/
def locate (s : Store) (purpose : Purpose) (p : Path) : Except FileError Place :=
  match s.reach purpose p with
  | .ok (.present l) => .ok (.present (s.home l))
  | place => place

end Store
end BlobSource
