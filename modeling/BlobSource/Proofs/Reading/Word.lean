import BlobSource.Proofs.Reading.AssemblyText
import Mathlib.Data.Nat.Digits.Defs

/-! The words that the assembler lays down, and what C reads in them. -/
namespace BlobSource

def WordWidth.bits : WordWidth → ℕ
  | .bits32 => 32
  | .bits64 => 64

namespace Reading

/-- So many bytes of a number, the lowest first. The others are dropped. -/
def lowBytes : ℕ → ℕ → Bytes
  | 0, _ => []
  | count + 1, n => UInt8.ofNat n :: lowBytes count (n / 256)

/-- The number that bytes stand for, the lowest first. -/
def unsigned (bytes : Bytes) : ℕ := Nat.ofDigits 256 (bytes.map UInt8.toNat)

theorem unsigned_lowBytes (count n : ℕ) : unsigned (lowBytes count n) = n % 256 ^ count := by
  induction count generalizing n with
  | zero => rw [Nat.pow_zero, Nat.mod_one]; rfl
  | succ count ih =>
    have hcons : unsigned (lowBytes (count + 1) n) =
        n % 256 + 256 * unsigned (lowBytes count (n / 256)) := by
      rw [lowBytes, unsigned, List.map_cons, Nat.ofDigits_cons]
      rfl
    rw [hcons, ih, Nat.pow_succ, Nat.mul_comm (256 ^ count), Nat.mod_mul]

/-- The value of the word that a directive lays down for an operand. -/
def laidDown (width : WordWidth) (operand : ℕ) : ℕ := unsigned (lowBytes (wordSize width) operand)

theorem laidDown_eq_mod (width : WordWidth) (operand : ℕ) :
    laidDown width operand = operand % 2 ^ width.bits := by
  have hsize : 256 ^ wordSize width = 2 ^ width.bits := by cases width <;> rfl
  rw [laidDown, unsigned_lowBytes, hsize]

/-- A word holds the numbers that fit into it, and no others. -/
theorem laidDown_eq_self_iff (width : WordWidth) (operand : ℕ) :
    laidDown width operand = operand ↔ operand < 2 ^ width.bits := by
  have hpos : 0 < 2 ^ width.bits := Nat.two_pow_pos _
  rw [laidDown_eq_mod]
  constructor
  · intro h
    rw [← h]
    exact Nat.mod_lt _ hpos
  · exact Nat.mod_eq_of_lt

namespace Object

def empty : Object := ⟨".text", fun _ => 0, [], [], [], []⟩

/-- What C finds in a constant of the given width under a name: the word behind the label, if that
is as wide. -/
def sizeAt? (o : Object) (target : WordWidth) (name : String) : Option ℕ := do
  let (_, place, position) ← o.labels.find? fun label => label.1 = name
  let (_, _, width, operand) ← o.words.find? fun word => word.1 = place ∧ word.2.1 = position
  if width = target then some (laidDown width operand) else none

end Object

/-- A text with a block of which one line, when all others are left out, lays down a word. What a
symbol or a path makes of the other lines does not matter to it. -/
def HasWord (text : Bytes) (width : WordWidth) (operand : ℕ) : Prop :=
  ∃ before line after, text = Utf8.encode (blockText width (before ++ line :: after)) ∧
    readAssembly? (Utf8.encode (blockText width [line])) =
      some (["stddef.h", "stdint.h"], [.word width operand])

theorem hasWord_assemblyText (symbol : Symbol) (width : WordWidth) (length : ℕ) (path : String) :
    HasWord (Utf8.encode (assemblyText symbol width length path)) width length := by
  obtain ⟨before, after, htext⟩ := exists_lines_assemblyText symbol width length path
  exact ⟨before, wordText length, after, by rw [htext], readAssembly?_wordText width length⟩

end Reading
end BlobSource
