/-!
# Reading TOML: parsers

A parser takes characters from the front of a text and leaves the rest, or fails without
taking any. This module has the characters of the grammar and the ways to combine parsers.
-/

namespace NativeCall
namespace Toml

abbrev Parser := StateT (List Char) Option

namespace Parser

def fail {α : Type} : Parser α :=
  fun _ => none

def satisfy (test : Char -> Bool) : Parser Char
  | c :: rest => if test c then some (c, rest) else none
  | [] => none

def char (c : Char) : Parser Unit := do
  let _ <- satisfy (· == c)

def chars : List Char -> Parser Unit
  | [] => pure ()
  | c :: rest => do
      char c
      chars rest

def text (t : String) : Parser Unit :=
  chars t.toList

/-- The longest run of characters that pass a test. -/
def run (test : Char -> Bool) : Parser (List Char) :=
  fun s => some (s.takeWhile test, s.dropWhile test)

def run1 (test : Char -> Bool) : Parser (List Char) := do
  let found <- run test
  if found.isEmpty then fail else pure found

def exactly (count : Nat) (test : Char -> Bool) : Parser (List Char) :=
  match count with
  | 0 => pure []
  | n + 1 => do
      let first <- satisfy test
      let others <- exactly n test
      return first :: others

def optional {α : Type} (p : Parser α) : Parser (Option α) :=
  fun s =>
    match p s with
    | some (value, rest) => some (some value, rest)
    | none => some (none, s)

/-- The parsers tried in order from the same place. -/
def firstOf {α : Type} : List (Parser α) -> Parser α
  | [] => fail
  | p :: rest => fun s =>
      match p s with
      | some found => some found
      | none => firstOf rest s

def manyWithin {α : Type} (p : Parser α) : Nat -> Parser (List α)
  | 0 => pure []
  | n + 1 => fun s =>
      match p s with
      | none => some ([], s)
      | some (value, rest) =>
          (manyWithin p n rest).map fun (others, rest) => (value :: others, rest)

/-- As often as possible. A parser that always takes a character is done within as many
rounds as there are characters. -/
def many {α : Type} (p : Parser α) : Parser (List α) :=
  fun s => manyWithin p s.length s

/-- Once or more, with separators in between. A separator that nothing follows is left. -/
def sepBy1 {α : Type} (p : Parser α) (separator : Parser Unit) : Parser (List α) := do
  let first <- p
  let others <- many (do separator; p)
  return first :: others

def atEnd : Parser Unit
  | [] => some ((), [])
  | _ => none

def parseAll? {α : Type} (p : Parser α) (text : String) : Option α := do
  let (value, rest) <- p text.toList
  if rest.isEmpty then some value else none

end Parser

/-!
# Characters
-/

def isBlank (c : Char) : Bool :=
  c == ' ' || c == '\t'

def isDigit (c : Char) : Bool :=
  '0' ≤ c && c ≤ '9'

def isHexDigit (c : Char) : Bool :=
  isDigit c || ('a' ≤ c && c ≤ 'f') || ('A' ≤ c && c ≤ 'F')

def isBareKeyChar (c : Char) : Bool :=
  isDigit c || ('a' ≤ c && c ≤ 'z') || ('A' ≤ c && c ≤ 'Z') || c == '-' || c == '_'

/-- What may stand in text and comments: all but control characters, the tab excepted. -/
def isPrintable (c : Char) : Bool :=
  c == '\t' || (0x20 ≤ c.toNat && c.toNat != 0x7f)

def digitValue (c : Char) : Nat :=
  if isDigit c then c.toNat - '0'.toNat
  else if 'a' ≤ c then c.toNat - 'a'.toNat + 10
  else c.toNat - 'A'.toNat + 10

def numberOf (base : Nat) (digits : List Char) : Nat :=
  digits.foldl (fun n c => base * n + digitValue c) 0

namespace Parser

def blanks : Parser Unit := do
  let _ <- run isBlank

def newline : Parser Unit :=
  firstOf [char '\n', text "\r\n"]

def comment : Parser Unit := do
  char '#'
  let _ <- run isPrintable

/-- What may follow on a line: blanks, a comment, and its end or that of the text. -/
def lineEnd : Parser Unit := do
  blanks
  let _ <- optional comment
  firstOf [newline, atEnd]

def filler : Parser Unit := do
  let _ <- many (firstOf [do let _ <- run1 isBlank, newline, comment])

end Parser
end Toml
end NativeCall
