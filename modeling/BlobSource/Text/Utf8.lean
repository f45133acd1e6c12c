/-! Text as UTF-8 bytes: encoding, strict decoding, and decoding that replaces ill-formed parts. -/
namespace BlobSource

abbrev Bytes := List UInt8

namespace Utf8

def encode (s : String) : Bytes := s.toList.flatMap String.utf8EncodeChar

/-- A character of which the first bytes are read: after the next byte it needs `more` further
ones, the next byte lies between `low` and `high`, and `value` holds the bits so far. -/
structure Started where
  more : Nat
  low : UInt8
  high : UInt8
  value : Nat
  deriving DecidableEq, Repr

/-- A continuation byte may be any of `80` to `BF`, except after the four first bytes that would
otherwise allow an overlong form, a surrogate, or a value above `10FFFF`. -/
def Started.ofLead? (b : UInt8) : Option Started :=
  let n := b.toNat
  if n < 0xC2 then none
  else if n < 0xE0 then some ⟨0, 0x80, 0xBF, n - 0xC0⟩
  else if n = 0xE0 then some ⟨1, 0xA0, 0xBF, 0⟩
  else if n = 0xED then some ⟨1, 0x80, 0x9F, 0xD⟩
  else if n < 0xF0 then some ⟨1, 0x80, 0xBF, n - 0xE0⟩
  else if n = 0xF0 then some ⟨2, 0x90, 0xBF, 0⟩
  else if n < 0xF4 then some ⟨2, 0x80, 0xBF, n - 0xF0⟩
  else if n = 0xF4 then some ⟨2, 0x80, 0x8F, 4⟩
  else none

/-- The first byte of a character: what is complete after it, and what is started. -/
def first (b : UInt8) : List (Option Char) × Option Started :=
  if b.toNat < 0x80 then ([some (Char.ofNat b.toNat)], none)
  else match Started.ofLead? b with
    | some s => ([], some s)
    | none => ([none], none)

/-- One byte: the parts that end before or with it, and the character it leaves unfinished.
A byte that cannot continue a character ends an ill-formed part and is read again as a first. -/
def step : Option Started → UInt8 → List (Option Char) × Option Started
  | none, b => first b
  | some s, b =>
    if s.low ≤ b ∧ b ≤ s.high then
      let value := s.value * 64 + (b.toNat - 0x80)
      match s.more with
      | 0 => ([some (Char.ofNat value)], none)
      | more + 1 => ([], some ⟨more, 0x80, 0xBF, value⟩)
    else
      let (parts, next) := first b
      (none :: parts, next)

/-- The characters of a byte string, with `none` for each maximal ill-formed part. -/
def scan : Option Started → Bytes → List (Option Char)
  | none, [] => []
  | some _, [] => [none]
  | s, b :: bs => (step s b).1 ++ scan (step s b).2 bs

/-- The text that the bytes encode, if they encode one. -/
def decode? (bs : Bytes) : Option String := ((scan none bs).mapM id).map String.ofList

/-- The text of the bytes, with `U+FFFD` for each maximal ill-formed part. -/
def decodeLossy (bs : Bytes) : String :=
  String.ofList ((scan none bs).map (·.getD '\uFFFD'))

end Utf8
end BlobSource
