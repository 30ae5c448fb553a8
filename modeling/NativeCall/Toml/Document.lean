import NativeCall.Toml.Number
import NativeCall.Toml.Table
import NativeCall.Toml.Text
import NativeCall.Toml.Time

/-!
# Reading TOML: documents

Values, keys and lines of a document. `Toml.read?` gives the table that a text writes.
-/

namespace NativeCall
namespace Toml

/-- How deep values nest, and how long a dotted key gets, both short of this. -/
def depthLimit : Nat := 80

namespace Parser

/-!
# Keys
-/

def simpleKey : Parser String :=
  firstOf
    [basicString, literalString, do return String.ofList (<- run1 isBareKeyChar)]

def key : Parser (List String × String) := do
  let parts <- sepBy1 (do blanks; let part <- simpleKey; blanks; return part) (char '.')
  match parts.getLast? with
  | some last => if parts.length < depthLimit then return (parts.dropLast, last) else fail
  | none => fail

/-!
# Values
-/

/-- The values of an array, of which the last may have a comma after it. -/
def arrayOf (value : Parser Value) : Parser Value := do
  char '['
  let values <- optional (sepBy1 (do filler; let v <- value; filler; return v) (char ','))
  if values.isSome then
    let _ <- optional (char ',')
  filler
  char ']'
  return .other

/-- The entries of a table in braces, which stands on one line. -/
def inlineTableOf (value : Parser Value) : Parser Value := do
  let entry : Parser ((List String × String) × Value) := do
    let name <- key
    char '='
    blanks
    let v <- value
    blanks
    return (name, v)
  char '\x7b'
  let entries <- optional (sepBy1 entry (char ','))
  blanks
  char '\x7d'
  let table := (entries.getD []).foldlM
    (fun table ((path, name), v) => Table.insert path name v table) (Table.empty .explicit)
  if table.isSome then return .other else fail

def scalar : Parser Value :=
  firstOf
    [do text "true"; return .boolean true,
     do text "false"; return .boolean false,
     do let _ <- anyString; return .other,
     do dateTime; return .other,
     do float; return .other,
     do integer; return .other]

/-- A value with fewer than `depth` arrays and tables around one another. -/
def valueWithin (depth : Nat) (s : List Char) : Option (Value × List Char) :=
  match depth with
  | 0 => scalar s
  | 1 => scalar s
  | inner + 2 =>
      let p : Parser Value :=
        firstOf
          [scalar, arrayOf (valueWithin (inner + 1)), inlineTableOf (valueWithin (inner + 1))]
      p s

def value : Parser Value :=
  valueWithin depthLimit

/-!
# Lines
-/

inductive Line where
  | entry (path : List String) (key : String) (value : Value)
  | table (path : List String) (key : String)
  | element (path : List String) (key : String)
  | nothing

def tableLine : Parser Line := do
  char '['
  let (path, last) <- key
  char ']'
  lineEnd
  return .table path last

def elementLine : Parser Line := do
  text "[["
  let (path, last) <- key
  text "]]"
  lineEnd
  return .element path last

def entryLine : Parser Line := do
  let (path, last) <- key
  char '='
  blanks
  let v <- value
  lineEnd
  return .entry path last v

/-- A line without content, which takes at least one character. -/
def emptyLine : Parser Line := do
  firstOf
    [do let _ <- run1 isBlank,
     newline,
     do comment; firstOf [newline, atEnd]]
  return .nothing

def document : Parser (List Line) := do
  let _ <- optional (char '\ufeff')
  let lines <- many (firstOf [emptyLine, elementLine, tableLine, entryLine])
  atEnd
  return lines

end Parser

/-- A document being put together: its table and the path of the header in force. -/
structure Builder where
  root : Table
  current : List String

namespace Builder

def add (builder : Builder) : Parser.Line -> Option Builder
  | .nothing => some builder
  | .entry path key value => do
      let root <- builder.root.update false (Table.insert path key value) builder.current
      return { builder with root }
  | .table path key => do
      let root <- builder.root.openTable path key
      return { root, current := path ++ [key] }
  | .element path key => do
      let root <- builder.root.openElement path key
      return { root, current := path ++ [key] }

end Builder

def read? (text : String) : Option Table := do
  let lines <- Parser.parseAll? Parser.document text
  let built <- lines.foldlM Builder.add { root := .empty .explicit, current := [] }
  return built.root

end Toml
end NativeCall
