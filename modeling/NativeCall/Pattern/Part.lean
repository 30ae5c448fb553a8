import NativeCall.Pattern.Mode
import NativeCall.Text.Hex

/-!
# Parts of a pattern

A part matches one character, or a place between two. Patterns run on an automaton that
goes over bytes and has no tables of Unicode properties. So where characters count, letter
case and the shorthands for digits, blanks and word characters cannot be used, nor the
edges of words; and where bytes count, nothing that could match a piece of a character.
-/

namespace NativeCall
namespace Pattern

inductive Part where
  | literal (c : Char)
  /-- A character by two hexadecimal digits, which is a byte where bytes count. -/
  | byte (c : Char)
  | any
  | anchor
  | wordEdge
  /-- The digits, the blanks or the word characters, or all others. -/
  | shorthand (negated : Bool)
  deriving DecidableEq, Repr

namespace Part

def isUsable (mode : Mode) : Part -> Bool
  | .literal _ => !(mode.unicode && mode.anyCase)
  | .byte c => if mode.unicode then !mode.anyCase else c.toNat < 0x80
  | .any => mode.unicode
  | .anchor => true
  | .wordEdge => !mode.unicode
  | .shorthand negated => !mode.unicode && !negated

/-- Whether a part can be used as a member of a set. Only characters and shorthands are
members, and among bytes only characters that take one. -/
def isMember (mode : Mode) (part : Part) : Bool :=
  match part with
  | .literal c => part.isUsable mode && (mode.unicode || c.toNat < 0x80)
  | .byte _ | .shorthand _ => part.isUsable mode
  | .any | .anchor | .wordEdge => false

def char? : Part -> Option Char
  | .literal c | .byte c => some c
  | _ => none

/-!
# Reading
-/

/-- Hexadecimal digits, of which each may follow blanks, up to the next part. -/
def readDigits (mode : Mode) : Nat -> List Char -> Option (List Char × List Char)
  | 0, text => some ([], mode.skip text)
  | count + 1, text =>
      match mode.skip text with
      | [] => none
      | c :: rest => do
          let _ <- Hex.digitValue? c
          let (digits, rest) <- readDigits mode count rest
          return (c :: digits, rest)

/-- The character of a number in a fixed count of hexadecimal digits. -/
def readNumbered (mode : Mode) (count : Nat) (text : List Char) : Option (Char × List Char) := do
  let (digits, rest) <- readDigits mode count text
  let n <- Hex.value? digits
  if n.isValidChar then some (Char.ofNat n, rest) else none

/-- What follows a backslash. All marks of ASCII stand for themselves. Sets by property are
refused with the other letters, for no property is known. -/
def readEscaped (mode : Mode) : List Char -> Option (Part × List Char)
  | [] => none
  | c :: rest =>
      match c with
      | 'x' => (readNumbered mode 2 rest).map fun (c, rest) => (.byte c, rest)
      | 'u' => (readNumbered mode 4 rest).map fun (c, rest) => (.literal c, rest)
      | 'U' => (readNumbered mode 8 rest).map fun (c, rest) => (.literal c, rest)
      | 'd' | 's' | 'w' => some (.shorthand false, rest)
      | 'D' | 'S' | 'W' => some (.shorthand true, rest)
      | 'a' => some (.literal '\x07', rest)
      | 'f' => some (.literal '\x0c', rest)
      | 't' => some (.literal '\t', rest)
      | 'n' => some (.literal '\n', rest)
      | 'r' => some (.literal '\r', rest)
      | 'v' => some (.literal '\x0b', rest)
      | 'A' | 'z' => some (.anchor, rest)
      | 'b' | 'B' | '<' | '>' => some (.wordEdge, rest)
      | _ => if c.toNat < 0x80 && !c.isAlphanum then some (.literal c, rest) else none

def read (mode : Mode) : List Char -> Option (Part × List Char)
  | [] => none
  | '\\' :: rest => readEscaped mode rest
  | '.' :: rest => some (.any, rest)
  | '^' :: rest | '$' :: rest => some (.anchor, rest)
  | c :: rest => some (.literal c, rest)

end Part
end Pattern
end NativeCall
