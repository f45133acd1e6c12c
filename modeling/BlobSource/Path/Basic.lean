import BlobSource.Text.Utf8

/-! Paths as byte strings: their segments, their file name, and joining. -/
namespace BlobSource

/-- A path is any byte string; only the slash and the two dotted names have a meaning. -/
structure Path where
  bytes : Bytes
  deriving DecidableEq, Repr

namespace Path

def slash : UInt8 := 0x2F

def ofText (s : String) : Path := ⟨Utf8.encode s⟩

def text? (p : Path) : Option String := Utf8.decode? p.bytes

def display (p : Path) : String := Utf8.decodeLossy p.bytes

/-- The byte strings between slashes, the first of them apart: there always is one. -/
def cut : Bytes → Bytes × List Bytes
  | [] => ([], [])
  | b :: bs =>
    let (first, rest) := cut bs
    if b = slash then ([], first :: rest) else (b :: first, rest)

def pieces (bs : Bytes) : List Bytes := (cut bs).1 :: (cut bs).2

theorem slash_notMem_of_mem_pieces {bs piece : Bytes} (h : piece ∈ pieces bs) : slash ∉ piece := by
  induction bs generalizing piece with
  | nil => simp_all [pieces, cut]
  | cons b bs ih =>
    simp only [pieces, cut] at ih h
    split at h
    · rcases List.mem_cons.mp h with rfl | h
      · simp
      · exact ih h
    · rcases List.mem_cons.mp h with rfl | h
      · have : slash ∉ (cut bs).1 := ih List.mem_cons_self
        simp [this, Ne.symm ‹¬b = slash›]
      · exact ih (List.mem_cons_of_mem _ h)

def currentName : Bytes := [0x2E]

def parentName : Bytes := [0x2E, 0x2E]

/-- The pieces that name something: neither empty nor the current directory. -/
def segments (p : Path) : List Bytes :=
  (pieces p.bytes).filter fun s => s ≠ [] ∧ s ≠ currentName

/-- The final segment, unless there is none or it leads upwards. -/
def fileName? (p : Path) : Option Bytes :=
  p.segments.getLast?.filter (· ≠ parentName)

def isAbsolute (p : Path) : Bool := p.bytes.head? = some slash

def endsInSlash (p : Path) : Bool := p.bytes.getLast? = some slash

/-- The second path as seen from the first. An absolute one stands for itself. -/
def join (base relative : Path) : Path :=
  if relative.isAbsolute then relative
  else if base.bytes = [] ∨ base.endsInSlash then ⟨base.bytes ++ relative.bytes⟩
  else ⟨base.bytes ++ slash :: relative.bytes⟩

end Path
end BlobSource
