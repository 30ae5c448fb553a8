import NativeCall.Log.Span
import NativeCall.Text.Quoted

/-!
# Log records

A record is what a logger writes of an event, or of the entering and closing of a span. It
has two forms: lines of text, and structured data. The time is not part of either.
-/

namespace NativeCall

structure LogRecord where
  level : Level
  target : String
  message : String
  fields : List (String × FieldValue)
  span : Option Span
  scope : List Span

inductive Structured where
  | number (n : Int)
  | text (t : String)
  | list (items : List Structured)
  | object (fields : List (String × Structured))

namespace LogRecord

def ofEvent (event : Event) (scope : List Span) : LogRecord :=
  { level := event.level, target := event.origin, message := event.message,
    fields := event.fields, span := scope.getLast?, scope }

def ofSpan (span : Span) (message : String) (scope : List Span) : LogRecord :=
  { level := span.level, target := span.target, message, fields := [], span := some span, scope }

/-!
# Text
-/

/-- Level names fill five columns from the right. -/
def levelColumn (level : Level) : String :=
  String.ofList (List.replicate (5 - level.name.length) ' ') ++ level.name

/-- A character of a message. Those that steer a terminal are written by number. -/
def messageChar (c : Char) : List Char :=
  if c ∈ ['\x07', '\x08', '\x0c', '\x1b', '\x7f'] then
    ['\\', 'x'] ++ Hex.byteDigits (BitVec.ofNat 8 c.toNat)
  else if 0x80 ≤ c.toNat ∧ c.toNat ≤ 0x9f then
    ['\\', 'u', '\x7b'] ++ Nat.toDigits 16 c.toNat ++ ['\x7d']
  else
    [c]

def fieldText : String × FieldValue -> String
  | (name, .quoted text) => name ++ "=" ++ Text.quoted text
  | (name, .bare text) => name ++ "=" ++ text
  | (name, .number n) => name ++ "=" ++ n.repr

def spanText (span : Span) : String :=
  let fields := span.fields.map fun (name, n) => name ++ "=" ++ toString n
  span.name ++ "\x7b" ++ String.intercalate " " fields ++ "\x7d:"

/-- The lines of a record. A message may hold line breaks. -/
def lines (record : LogRecord) (thread : Option String) : List String :=
  let message := String.ofList (record.message.toList.flatMap messageChar)
  let parts :=
    [levelColumn record.level] ++ thread.toList ++ record.span.toList.map spanText
      ++ [record.target ++ ":", message] ++ record.fields.map fieldText
  (String.intercalate " " parts).splitOn "\n"

/-!
# Structured data
-/

def fieldData : FieldValue -> Structured
  | .quoted text | .bare text => .text text
  | .number n => .number n

def spanData (span : Span) : Structured :=
  .object (span.fields.map (fun (name, n) => (name, .number n)) ++ [("name", .text span.name)])

def structured (record : LogRecord) (thread : Option String) : Structured :=
  let fields := ("message", .text record.message)
    :: record.fields.map fun (name, value) => (name, fieldData value)
  let span := match record.span with
    | none => []
    | some span =>
        [("span", spanData span), ("spans", .list (record.scope.map spanData))]
  .object <|
    [("level", .text record.level.name), ("fields", .object fields),
     ("target", .text record.target)]
      ++ span ++ thread.toList.map fun name => ("threadId", .text name)

end LogRecord
end NativeCall
