/-! Sets of code points, as lists of ranges. -/
namespace BlobSource.CharClass

def inRanges (ranges : List (Nat × Nat)) (n : Nat) : Bool :=
  ranges.any fun (low, high) => low ≤ n && n ≤ high

end BlobSource.CharClass
