/-! The width of the word that holds a length on the target machine. -/
namespace BlobSource

/-- The two word sizes that the assembler has a directive for here. -/
inductive WordWidth where
  | bits32
  | bits64
  deriving DecidableEq, Repr

namespace WordWidth

def host : WordWidth := .bits64

/-- A target of 16 bits gets the 32-bit word, because no narrower one is offered. -/
def ofBits? (bits : Nat) : Option WordWidth :=
  if bits = 16 ∨ bits = 32 then some .bits32
  else if bits = 64 then some .bits64
  else none

/-- The size of the word in bytes, to which the blob is aligned. -/
def alignment : WordWidth → Nat
  | .bits32 => 4
  | .bits64 => 8

def directive : WordWidth → String
  | .bits32 => ".int"
  | .bits64 => ".quad"

/-- The number that a nonempty run of decimal digits stands for. -/
def number? (digits : List Char) : Option Nat :=
  if digits ≠ [] ∧ digits.all Char.isDigit then
    some (digits.foldl (fun n c => n * 10 + (c.toNat - '0'.toNat)) 0)
  else none

/-- A number of bits, with an optional plus sign, that fits 32 bits. -/
def bits? (text : String) : Option Nat :=
  let digits := match text.toList with
    | '+' :: rest => rest
    | cs => cs
  (number? digits).filter (· < UInt32.size)

/-- The width that a target's description spells. -/
def ofText? (text : String) : Option WordWidth := (bits? text).bind ofBits?

end WordWidth
end BlobSource
