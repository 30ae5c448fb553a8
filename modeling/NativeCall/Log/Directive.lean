import NativeCall.Fault
import NativeCall.Log.FieldMatch
import NativeCall.Log.Span
import NativeCall.Text.ByteOffset

/-!
# Filter directives

A directive lets callsites through up to a level. It may name an origin, as a leading part
of the callsite's own, a span, and fields of that span with or without values, in the form
`origin[span{field=value}]=level`. A level alone holds for every origin; an origin alone
lets everything through.
-/

namespace NativeCall

structure Directive where
  /-- The verbosity up to which callsites are let through; zero lets none through. -/
  verbosity : Nat
  target : Option String
  span : Option String
  fields : List FieldMatch
  deriving DecidableEq, Repr

namespace Directive

/-!
# Reading
-/

/-- A level by number or by name in any case; off is zero, and no text is the level of errors. -/
def verbosity? (text : List Char) : Option Nat :=
  match Decimal.unsigned? text with
  | some n => if n ≤ Level.trace.verbosity then some n else none
  | none =>
      if text.isEmpty then some Level.error.verbosity
      else if (String.ofList text).toLower == "off" then some 0
      else (Level.ofText? (String.ofList text)).map (·.verbosity)

inductive ReaderState where
  | start
  | levelOrTarget (start : Nat)
  | span (start : Nat)
  | field (start : Nat)
  | fields
  | target
  | level (start : Nat)

structure Reader where
  directive : Directive
  state : ReaderState

def unreadable {α : Type} : Outcome Unit α :=
  .error (.error ())

def orUnreadable {α : Type} : Option α -> Outcome Unit α
  | some value => .ok value
  | none => unreadable

def slice (text : List Char) (first last : Nat) : Outcome Unit (List Char) :=
  match Text.sliceBytes first last text with
  | some part => .ok part
  | none => .error (.fault .splitCharacter)

def sliceFrom (text : List Char) (first : Nat) : Outcome Unit (List Char) :=
  match Text.splitBytes first text with
  | some (_, part) => .ok part
  | none => .error (.fault .splitCharacter)

/-- A directive starts with a letter, a digit, or one of three marks. -/
def isStart (c : Char) : Bool :=
  c == '-' || c == ':' || c == '_' || Text.isAlphanumeric c

def readChar (text : List Char) (reader : Reader) (place : Nat) (c : Char) :
    Outcome Unit Reader := do
  let d := reader.directive
  let part (start : Nat) : Outcome Unit String := (slice text start place).map String.ofList
  match reader.state with
  | .start =>
      if c = '[' then return { reader with state := .span (place + 1) }
      else if isStart c then return { reader with state := .levelOrTarget place }
      else unreadable
  | .levelOrTarget start =>
      if c = '=' then
        let target <- part start
        return { directive := { d with target := some target }, state := .level (place + 1) }
      else if c = '[' then
        let target <- part start
        return { directive := { d with target := some target }, state := .span (place + 1) }
      else return reader
  | .target => if c = '=' then return { reader with state := .level (place + 1) } else unreadable
  | .span start =>
      if c = ']' then
        let name <- part start
        return { directive := { d with span := some name }, state := .target }
      else if c = '\x7b' then
        let name <- part start
        let span := if name.isEmpty then none else some name
        return { directive := { d with span }, state := .field (place + 1) }
      else return reader
  | .field start =>
      if c = '\x7d' then
        let found <- slice text start place
        if found.isEmpty then unreadable
        else
          let field <- orUnreadable (FieldMatch.ofText? found)
          return { directive := { d with fields := d.fields ++ [field] }, state := .fields }
      else return reader
  | .fields => if c = ']' then return { reader with state := .target } else unreadable
  | .level _ => return reader

def readFrom (text : List Char) (reader : Reader) : Nat -> List Char -> Outcome Unit Reader
  | _, [] => .ok reader
  | place, c :: rest => do
      let next <- readChar text reader place c
      readFrom text next (place + c.utf8Size) rest

/-- One directive. Blanks around it are skipped over, but places count from the start of
the text as it stands, so that blanks in front move all parts. -/
def read (text : List Char) : Outcome Unit Directive := do
  let blank : Directive :=
    { verbosity := Level.trace.verbosity, target := none, span := none, fields := [] }
  let reader <- readFrom text { directive := blank, state := .start } 0 (Text.trimChars text)
  let d := reader.directive
  match reader.state with
  | .levelOrTarget start =>
      let part <- sliceFrom text start
      if part.isEmpty then return d
      else match verbosity? part with
        | some verbosity => return { d with verbosity }
        | none => return { d with target := some (String.ofList part) }
  | .level start =>
      let part <- sliceFrom text start
      if part.isEmpty then return d
      else
        let verbosity <- orUnreadable (verbosity? part)
        return { d with verbosity }
  | .target => return d
  | .start | .span _ | .field _ | .fields => unreadable

/-!
# Matching
-/

def targetMatches (directive : Directive) (site : Callsite) : Bool :=
  directive.target.all fun target => target.toList.isPrefixOf site.target.toList

def nameMatches (directive : Directive) (site : Callsite) : Bool :=
  directive.span.all fun name => site.kind == .span name

def fieldsMatch (directive : Directive) (site : Callsite) : Bool :=
  directive.fields.all fun field => site.fieldNames.contains field.name

def isDynamic (directive : Directive) : Bool :=
  directive.span.isSome || !directive.fields.isEmpty

def hasValues (directive : Directive) : Bool :=
  directive.fields.any (·.value.isSome)

/-- A directive without span and values can be decided from the callsite. -/
def isStatic (directive : Directive) : Bool :=
  directive.span.isNone && !directive.hasValues

/-- Decided from the callsite: the fields asked for count for events alone. -/
def caresStatically (directive : Directive) (site : Callsite) : Bool :=
  directive.targetMatches site && (site.kind != .event || directive.fieldsMatch site)

def caresDynamically (directive : Directive) (site : Callsite) : Bool :=
  directive.targetMatches site && directive.nameMatches site && directive.fieldsMatch site

def valuesMatch (directive : Directive) (span : Span) : Bool :=
  directive.fields.all (·.isMetBy span.fields)

/-!
# Order

The more a directive says, the earlier it is asked: a longer target, a span, more fields.
Between directives that say as much, the later names of two come first.
-/

/-- How much a directive says of each kind, a target by its length in bytes. -/
def ranks (directive : Directive) : List Nat :=
  [(directive.target.map (·.utf8ByteSize + 1)).getD 0,
   if directive.span.isSome then 1 else 0,
   directive.fields.length]

def names (directive : Directive) : List String :=
  directive.target.toList ++ directive.span.toList ++ directive.fields.map (·.name)

/-- Two directives that say the same but for the level. -/
def sameScope (a b : Directive) : Bool :=
  a.target == b.target && a.span == b.span && a.fields == b.fields

def precedes (a b : Directive) : Bool :=
  b.ranks < a.ranks || (a.ranks == b.ranks && b.names < a.names)

/-- Add a directive in its place. It replaces one of the same scope. -/
def insertInto (directive : Directive) : List Directive -> List Directive
  | [] => [directive]
  | first :: rest =>
      if sameScope directive first then directive :: rest
      else if precedes directive first then directive :: first :: rest
      else first :: insertInto directive rest

def sorted (directives : List Directive) : List Directive :=
  directives.foldl (fun placed directive => insertInto directive placed) []

end Directive
end NativeCall
