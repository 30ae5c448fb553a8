import NativeCall.Toml.Parser

/-!
# Reading TOML: strings

Strings stand in double quotes, with escapes, or in single quotes, without. Three quotes
open a string over several lines, to whose end up to two quotes may belong.
-/

namespace NativeCall
namespace Toml
namespace Parser

/-!
# Escapes
-/

def codePoint (digits : Nat) : Parser Char := do
  let n := numberOf 16 (<- exactly digits isHexDigit)
  if n.isValidChar then pure (Char.ofNat n) else fail

def escaped : Parser Char := do
  match <- satisfy fun _ => true with
  | 'b' => pure '\x08'
  | 't' => pure '\t'
  | 'n' => pure '\n'
  | 'f' => pure '\x0c'
  | 'r' => pure '\r'
  | '"' => pure '"'
  | '\\' => pure '\\'
  | 'u' => codePoint 4
  | 'U' => codePoint 8
  | _ => fail

/-!
# Strings on one line
-/

def basicChar : Parser Char :=
  firstOf
    [satisfy fun c => isPrintable c && c != '"' && c != '\\',
     do char '\\'; escaped]

def literalChar : Parser Char :=
  satisfy fun c => isPrintable c && c != '\''

def basicString : Parser String := do
  char '"'
  let content <- many basicChar
  char '"'
  return String.ofList content

def literalString : Parser String := do
  char '\''
  let content <- many literalChar
  char '\''
  return String.ofList content

/-!
# Strings over several lines
-/

/-- A backslash at the end of a line takes the blanks and line ends after it away. -/
def continuation : Parser (List Char) := do
  char '\\'
  blanks
  newline
  let _ <- many (firstOf [newline, do let _ <- run1 isBlank])
  return []

def lineBreak : Parser (List Char) := do
  newline
  return ['\n']

def single (p : Parser Char) : Parser (List Char) := do
  return [<- p]

/-- One or two quotes that the content goes on after. -/
def innerQuotes (quote : Char) (content : Parser (List Char)) : Parser (List Char) :=
  firstOf <| [2, 1].map fun count => do
    chars (List.replicate count quote)
    return List.replicate count quote ++ (<- content)

/-- The closing quotes, and up to two quotes of the content before them. -/
def closingQuotes (quote : Char) : Parser (List Char) :=
  firstOf <| [2, 1, 0].map fun count => do
    chars (List.replicate (count + 3) quote)
    return List.replicate count quote

def multiline (quote : Char) (content : Parser (List Char)) : Parser String := do
  chars [quote, quote, quote]
  let _ <- optional newline
  let parts <- many (firstOf [content, innerQuotes quote content])
  let last <- closingQuotes quote
  return String.ofList (parts.flatten ++ last)

def multilineBasic : Parser String :=
  multiline '"' (firstOf [continuation, single basicChar, lineBreak])

def multilineLiteral : Parser String :=
  multiline '\'' (firstOf [single literalChar, lineBreak])

def anyString : Parser String :=
  firstOf [multilineBasic, basicString, multilineLiteral, literalString]

end Parser
end Toml
end NativeCall
