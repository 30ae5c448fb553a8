import NativeCall.Text.Hex
import NativeCall.Text.Shapeless

/-!
# Quoted text

Text in double quotes. A backslash stands before a quote and a backslash; four control
characters have a letter; every other character without a shape is written by its number.
-/

namespace NativeCall
namespace Text

def quotedChar (c : Char) : List Char :=
  if c = '\x00' then ['\\', '0']
  else if c = '\t' then ['\\', 't']
  else if c = '\r' then ['\\', 'r']
  else if c = '\n' then ['\\', 'n']
  else if c = '"' ∨ c = '\\' then ['\\', c]
  else if isShapeless c then
    ['\\', 'u', '\x7b'] ++ Nat.toDigits 16 c.toNat ++ ['\x7d']
  else [c]

def quoted (text : String) : String :=
  "\"" ++ String.ofList (text.toList.flatMap quotedChar) ++ "\""

end Text
end NativeCall
