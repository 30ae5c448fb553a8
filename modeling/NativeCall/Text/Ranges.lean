/-!
# Ranges of characters

Sets of characters as ranges of code points.
-/

namespace NativeCall
namespace Text

def inRanges (ranges : List (Nat × Nat)) (c : Char) : Bool :=
  ranges.any fun (first, last) => first ≤ c.toNat && c.toNat ≤ last

theorem inRanges_append (first second : List (Nat × Nat)) (c : Char) :
    inRanges (first ++ second) c = (inRanges first c || inRanges second c) := by
  simp [inRanges, List.any_append]

end Text
end NativeCall
