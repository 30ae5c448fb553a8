/-!
# Places in a text by bytes

A place counts the bytes that write the characters before it. It may lie inside a character.
-/

namespace NativeCall
namespace Text

/-- The characters before a place and those after it. None if the place lies inside a
character or after the end. -/
def splitBytes : Nat -> List Char -> Option (List Char × List Char)
  | 0, text => some ([], text)
  | _ + 1, [] => none
  | place + 1, c :: rest =>
      if c.utf8Size ≤ place + 1 then
        (splitBytes (place + 1 - c.utf8Size) rest).map fun (before, after) => (c :: before, after)
      else none

theorem append_of_splitBytes {place : Nat} {text before after : List Char}
    (h : splitBytes place text = some (before, after)) : before ++ after = text := by
  fun_induction splitBytes place text generalizing before with
  | case1 text =>
      obtain ⟨rfl, rfl⟩ := Prod.mk.inj (Option.some.inj h)
      rfl
  | case2 => cases h
  | case3 place c rest _ ih =>
      obtain ⟨⟨first, last⟩, found, same⟩ := Option.map_eq_some_iff.mp h
      obtain ⟨rfl, rfl⟩ := Prod.mk.inj same
      exact congrArg (c :: ·) (ih found)
  | case4 => cases h

def sliceBytes (first last : Nat) (text : List Char) : Option (List Char) := do
  let (_, after) <- splitBytes first text
  let (between, _) <- splitBytes (last - first) after
  return between

end Text
end NativeCall
