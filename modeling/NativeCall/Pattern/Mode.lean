import NativeCall.Text.Blank

/-!
# Modes of a pattern

How the characters of a pattern are taken, which switches inside the pattern can change.
-/

namespace NativeCall
namespace Pattern

structure Mode where
  /-- Parts match characters, and not the bytes that write them. -/
  unicode : Bool
  /-- Letters match in either case. -/
  anyCase : Bool
  /-- Blanks and comments between the parts do not count. -/
  spaced : Bool
  deriving DecidableEq, Repr

namespace Mode

def initial : Mode :=
  { unicode := true, anyCase := false, spaced := false }

/-!
# Switches
-/

/-- The letters of the switches. Those for line ends and greed have no effect on whether a
pattern can be used. -/
def switchLetters : List Char :=
  ['i', 'm', 's', 'U', 'u', 'R', 'x']

def set (mode : Mode) (letter : Char) (on : Bool) : Mode :=
  match letter with
  | 'i' => { mode with anyCase := on }
  | 'u' => { mode with unicode := on }
  | 'x' => { mode with spaced := on }
  | _ => mode

structure Switches where
  mode : Mode
  seen : List Char
  mark : Char
  rest : List Char

/-- Switches up to a colon or a closing parenthesis. Those after a minus sign are turned
off. No letter comes twice, nor does the sign, and the sign is not the last. -/
def readSwitches (mode : Mode) (seen : List Char) (on afterSign : Bool) :
    List Char -> Option Switches
  | [] => none
  | c :: rest =>
      if c = ':' || c = ')' then
        if afterSign then none else some { mode, seen, mark := c, rest }
      else if c = '-' then
        if on then readSwitches mode seen false true rest else none
      else if switchLetters.contains c && !seen.contains c then
        readSwitches (mode.set c on) (c :: seen) on false rest
      else none

/-!
# Blanks
-/

def dropBlanks (inComment : Bool) : List Char -> List Char
  | [] => []
  | c :: rest =>
      if inComment then dropBlanks (c != '\n') rest
      else if Text.isBlank c then dropBlanks false rest
      else if c = '#' then dropBlanks true rest
      else c :: rest

theorem dropBlanks_dropBlanks (inComment : Bool) (text : List Char) :
    dropBlanks false (dropBlanks inComment text) = dropBlanks inComment text := by
  fun_induction dropBlanks inComment text with
  | case1 => rfl
  | case2 c rest ih => exact ih
  | case3 _ c rest _ _ ih => exact ih
  | case4 _ _ _ _ ih => exact ih
  | case5 _ c rest _ notBlank notSign => simp [dropBlanks, notBlank, notSign]

def skip (mode : Mode) (text : List Char) : List Char :=
  if mode.spaced then dropBlanks false text else text

theorem skip_skip (mode : Mode) (text : List Char) :
    mode.skip (mode.skip text) = mode.skip text := by
  unfold skip
  split
  · exact dropBlanks_dropBlanks false text
  · rfl

/-- The character that is taken to come next. Of a comment it is the first that is no
blank, and at the end the first blank. -/
def peek? (mode : Mode) (text : List Char) : Option Char :=
  if mode.spaced then
    let found := match text.dropWhile Text.isBlank with
      | '#' :: comment => comment.find? (!Text.isBlank ·)
      | others => others.head?
    found.or text.head?
  else text.head?

end Mode
end Pattern
end NativeCall
