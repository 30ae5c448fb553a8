import NativeCall.Event

/-!
# Spans and callsites

A span is a stretch of work that events happen in. A callsite is what a filter sees of a
span or an event before it happens: its kind, its origin, its level and its field names.
-/

namespace NativeCall

structure Span where
  name : String
  target : String
  level : Level
  fields : List (String × Int)
  deriving DecidableEq, Repr

inductive CallsiteKind where
  | span (name : String)
  | event
  deriving DecidableEq, Repr

structure Callsite where
  kind : CallsiteKind
  target : String
  level : Level
  fieldNames : List String
  deriving DecidableEq, Repr

def Span.callsite (span : Span) : Callsite :=
  { kind := .span span.name, target := span.target, level := span.level,
    fieldNames := span.fields.map (·.1) }

/-- What a filter sees of an event. The message counts as a field. -/
def Event.callsite (event : Event) : Callsite :=
  { kind := .event, target := event.origin, level := event.level,
    fieldNames := "message" :: event.fields.map (·.1) }

end NativeCall
