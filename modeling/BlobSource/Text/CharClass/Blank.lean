import BlobSource.Text.CharClass.Ranges

/-! Blanks, and text without those around it. -/
namespace BlobSource

/-- The characters with property White_Space. -/
def CharClass.whiteSpace : List (Nat × Nat) :=
  [(0x9, 0xD), (0x20, 0x20), (0x85, 0x85), (0xA0, 0xA0), (0x1680, 0x1680), (0x2000, 0x200A),
    (0x2028, 0x2029), (0x202F, 0x202F), (0x205F, 0x205F), (0x3000, 0x3000)]

def CharClass.isBlank (c : Char) : Bool := inRanges whiteSpace c.toNat

def withoutOuterBlanks (text : List Char) : List Char :=
  ((text.dropWhile CharClass.isBlank).reverse.dropWhile CharClass.isBlank).reverse

end BlobSource
