import NativeCall.Pattern.CharSet
import NativeCall.Text.Alphanumeric

/-!
# Patterns

A pattern is a regular expression: branches with bars between them, each a run of parts,
sets, groups and repetitions. Here it is decided which texts are patterns that can be used.

Repetitions by count are not among them. Their braces could not be written where patterns
stand, for a closing brace ends the place.
-/

namespace NativeCall
namespace Pattern

/-- How deep the groups, sets and repetitions of a pattern may nest. -/
def depthLimit : Nat := 250

/-!
# Groups
-/

inductive Opening where
  | switches (mode : Mode) (rest : List Char)
  | group (inner : Mode) (names : List (List Char)) (rest : List Char)

def isNameStart (c : Char) : Bool :=
  c == '_' || Text.isAlphabetic c

def isNameChar (c : Char) : Bool :=
  c == '_' || c == '.' || c == '[' || c == ']' || Text.isAlphanumeric c

/-- A group with a name, which no other group has, from the name on. -/
def readName (mode : Mode) (names : List (List Char)) (text : List Char) : Option Opening := do
  let name := text.takeWhile (· != '>')
  let '>' :: rest := text.dropWhile (· != '>') | none
  let first :: others := name | none
  if isNameStart first && others.all isNameChar && !names.contains name then
    some (.group mode (name :: names) rest)
  else none

/-- What stands after an opening parenthesis: a name, switches, or nothing. Conditions on
what comes before or after are refused. -/
def readOpening (mode : Mode) (names : List (List Char)) (text : List Char) : Option Opening :=
  match mode.skip text with
  | '?' :: 'P' :: '<' :: rest => readName mode names rest
  | '?' :: '<' :: rest =>
      match rest with
      | '=' :: _ | '!' :: _ => none
      | _ => readName mode names rest
  | '?' :: rest => do
      let switches <- mode.readSwitches [] true false rest
      if switches.mark = ':' then some (.group switches.mode names switches.rest)
      else if switches.seen.isEmpty then none
      else some (.switches switches.mode switches.rest)
  | rest => some (.group mode names rest)

/-!
# Branches
-/

/-- What has been read of a group: how deep its finished branches nest, and each piece of
the last one, the latest first. Switches have no depth and cannot be repeated. -/
structure Branches where
  finished : List Nat
  pieces : List (Option Nat)

namespace Branches

def none : Branches :=
  { finished := [], pieces := [] }

/-- The depth of a run: one more than that of its members, unless it has at most one. -/
def depthOf : List Nat -> Nat
  | [] => 0
  | [depth] => depth
  | depth :: others => others.foldl max depth + 1

def add (branches : Branches) (depth : Option Nat) : Branches :=
  { branches with pieces := depth :: branches.pieces }

def last (branches : Branches) : Nat :=
  depthOf (branches.pieces.map (·.getD 0))

def split (branches : Branches) : Branches :=
  { finished := branches.last :: branches.finished, pieces := [] }

def total (branches : Branches) : Nat :=
  depthOf (branches.last :: branches.finished)

def repeated? (branches : Branches) : Option Branches :=
  match branches.pieces with
  | some depth :: others => some { branches with pieces := some (depth + 1) :: others }
  | _ => .none

end Branches

/-- A repetition as short as possible has another mark. -/
def dropLazy : List Char -> List Char
  | '?' :: rest => rest
  | text => text

/-- The depth of a group up to its end, which is left, with the names of all groups so far.
The bound counts the pieces that may still come. -/
def readBranches :
    Nat -> Mode -> List (List Char) -> Branches -> List Char ->
      Option (Nat × List (List Char) × List Char)
  | 0, _, _, _, _ => none
  | bound + 1, mode, names, branches, text =>
      match mode.skip text with
      | [] => some (branches.total, names, [])
      | ')' :: rest => some (branches.total, names, ')' :: rest)
      | '|' :: rest => readBranches bound mode names branches.split rest
      | '*' :: rest | '+' :: rest | '?' :: rest => do
          let branches <- branches.repeated?
          readBranches bound mode names branches (dropLazy rest)
      | '{' :: _ => none
      | '[' :: rest => do
          let (depth, rest) <- CharSet.read mode rest
          readBranches bound mode names (branches.add depth) rest
      | '(' :: rest => do
          match <- readOpening mode names rest with
          | .switches mode rest => readBranches bound mode names (branches.add none) rest
          | .group inner names rest =>
              let (depth, names, rest) <- readBranches bound inner names Branches.none rest
              let ')' :: rest := rest | none
              readBranches bound mode names (branches.add (some (depth + 1))) rest
      | text => do
          let (part, rest) <- Part.read mode text
          if part.isUsable mode then readBranches bound mode names (branches.add (some 0)) rest
          else none

end Pattern

def isPattern (text : List Char) : Bool :=
  let bound := text.length + 1
  match Pattern.readBranches bound Pattern.Mode.initial [] Pattern.Branches.none text with
  | some (depth, _, []) => depth ≤ Pattern.depthLimit
  | _ => false

end NativeCall
