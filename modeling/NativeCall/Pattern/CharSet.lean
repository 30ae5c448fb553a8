import NativeCall.Pattern.Part

/-!
# Sets of characters in a pattern

A set stands in brackets: characters, ranges of them, named sets, other sets, and operators
between members.

A set is read to how deep it nests, which counts the sets, runs of members and operators
around a member.
-/

namespace NativeCall
namespace Pattern
namespace CharSet

def names : List String :=
  ["alnum", "alpha", "ascii", "blank", "cntrl", "digit", "graph", "lower", "print", "punct",
   "space", "upper", "word", "xdigit"]

/-- What has been read of a set: the members since the last operator, and the depth of what
stands before that. -/
structure Members where
  count : Nat
  depth : Nat
  before : Option Nat

namespace Members

def none : Members :=
  { count := 0, depth := 0, before := .none }

def add (members : Members) (depth : Nat) : Members :=
  { members with count := members.count + 1, depth := max members.depth depth }

def total (members : Members) : Nat :=
  let run := if members.count ≤ 1 then members.depth else members.depth + 1
  match members.before with
  | .none => run
  | some before => max before run + 1

def split (members : Members) : Members :=
  { count := 0, depth := 0, before := some members.total }

end Members

/-- A set by its name, from after the opening bracket on, and whether it is negated. -/
def readNamed (text : List Char) : Option (Bool × List Char) := do
  let ':' :: text := text | .none
  let (negated, text) := match text with
    | '^' :: rest => (true, rest)
    | _ => (false, text)
  let name := String.ofList (text.takeWhile (· != ':'))
  match text.dropWhile (· != ':') with
  | ':' :: ']' :: rest => if names.contains name then some (negated, rest) else .none
  | _ => .none

/-- One member from its start on: a part, with a backslash before those that need one. -/
def readPart (mode : Mode) : List Char -> Option (Part × List Char)
  | [] => .none
  | '\\' :: rest => Part.readEscaped mode rest
  | c :: rest => some (.literal c, rest)

/-- A part, or a range between two characters. A minus sign before another one or before
the end makes no range. -/
def readRange (mode : Mode) (text : List Char) : Option (List Char) := do
  let (first, rest) <- readPart mode text
  let single := if first.isMember mode then some (mode.skip rest) else .none
  match mode.skip rest with
  | '-' :: after =>
      if mode.peek? after = some ']' || mode.peek? after = some '-' then single
      else
        let (last, rest) <- readPart mode (mode.skip after)
        let low <- first.char?
        let high <- last.char?
        if low ≤ high && first.isMember mode && last.isMember mode then some rest else .none
  | _ => single

/-- Minus signs in front stand for themselves. The bound counts those that may still come. -/
def readSigns (mode : Mode) : Nat -> Members -> List Char -> Members × List Char
  | bound + 1, members, '-' :: rest => readSigns mode bound (members.add 0) (mode.skip rest)
  | _, members, text => (members, text)

/-- The start of a set after its opening bracket: a caret that negates the set, minus signs,
and a closing bracket if nothing stands before it. -/
def readStart (mode : Mode) (text : List Char) : Option (Members × List Char) := do
  let text := mode.skip text
  let (negated, text) := match text with
    | '^' :: rest => (true, mode.skip rest)
    | _ => (false, text)
  if negated && !mode.unicode then .none
  else
    let (members, text) := readSigns mode text.length Members.none text
    let (members, text) := match members.count, text with
      | 0, ']' :: rest => (members.add 0, mode.skip rest)
      | _, _ => (members, text)
    if members.count = 0 || (Part.literal '-').isMember mode then some (members, text)
    else .none

/-- The depth of a set, from after its start on. The bound counts the brackets and members
that may still come. -/
def readMembers (mode : Mode) : Nat -> Members -> List Char -> Option (Nat × List Char)
  | 0, _, _ => .none
  | bound + 1, members, text =>
      match mode.skip text with
      | [] => .none
      | ']' :: rest => some (members.total + 1, rest)
      | '[' :: rest =>
          match readNamed rest with
          | some (negated, rest) =>
              let usable := if mode.unicode then !mode.anyCase else !negated
              if usable then readMembers mode bound (members.add 0) rest else .none
          | .none => do
              let (inner, rest) <- readStart mode rest
              let (depth, rest) <- readMembers mode bound inner rest
              readMembers mode bound (members.add depth) rest
      | '&' :: '&' :: rest | '-' :: '-' :: rest | '~' :: '~' :: rest =>
          readMembers mode bound members.split rest
      | text => do
          let rest <- readRange mode text
          readMembers mode bound (members.add 0) rest

def read (mode : Mode) (text : List Char) : Option (Nat × List Char) := do
  let (members, rest) <- readStart mode text
  readMembers mode (text.length + 1) members rest

end CharSet
end Pattern
end NativeCall
