import NativeCall.Log.Directive

/-!
# Filters

A filter is a set of directives, written with commas between them. The first directive
that applies to a callsite decides. Directives that name a span or a field let that span
through, and while it is entered let events through up to their own level.
-/

namespace NativeCall

structure Filter where
  /-- Decided from the callsite, in the order in which they are asked. -/
  statics : List Directive
  /-- Decided through spans. -/
  dynamics : List Directive
  /-- The greatest verbosity of all directives, also of those that others have replaced. -/
  highest : Nat
  deriving DecidableEq, Repr

namespace Filter

/-!
# Reading
-/

def greatest (levels : List Nat) : Nat :=
  levels.foldl max 0

/-- The filter of some directives. Without any, errors are let through. -/
def ofDirectives (directives : List Directive) : Filter :=
  let dynamics := directives.filter (·.isDynamic)
  let statics := directives.filter (!·.isDynamic) ++ dynamics.filter (·.isStatic)
  if directives.isEmpty then
    { statics :=
        [{ verbosity := Level.error.verbosity, target := none, span := none, fields := [] }]
      dynamics := []
      highest := Level.error.verbosity }
  else
    { statics := Directive.sorted statics
      dynamics := Directive.sorted dynamics
      highest := greatest (directives.map (·.verbosity)) }

/-- Directives with commas between them, where empty ones do not count. One that is none
makes the whole unreadable. -/
def read (text : String) : Outcome Unit Filter := do
  let directives <- ((text.splitOn ",").filter (!·.isEmpty)).mapM fun part =>
    Directive.read part.toList
  return ofDirectives directives

def ofLevel (level : Level) : Filter :=
  ofDirectives
    [{ verbosity := level.verbosity, target := some "stubjit", span := none, fields := [] }]

/-!
# Decisions
-/

/-- The level beyond which nothing is ever let through. A directive with values may turn
out to apply to any span. -/
def ceiling (filter : Filter) : Nat :=
  if filter.dynamics.any (·.hasValues) then Level.trace.verbosity else filter.highest

def admitsCallsite (filter : Filter) (site : Callsite) : Bool :=
  (filter.statics.find? (·.caresStatically site)).any fun directive =>
    site.level.verbosity ≤ directive.verbosity

def admitsSpan (filter : Filter) (span : Span) : Bool :=
  span.level.verbosity ≤ filter.ceiling
    && (filter.dynamics.any (·.caresDynamically span.callsite)
      || filter.admitsCallsite span.callsite)

def verbosityWithin (filter : Filter) (span : Span) : Nat :=
  let applying := filter.dynamics.filter fun directive =>
    directive.caresDynamically span.callsite && directive.valuesMatch span
  greatest (applying.map (·.verbosity))

def admitsEvent (filter : Filter) (entered : List Span) (event : Event) : Bool :=
  let verbosity := event.level.verbosity
  verbosity ≤ filter.ceiling
    && (entered.any (fun span => verbosity ≤ filter.verbosityWithin span)
      || filter.admitsCallsite event.callsite)

end Filter
end NativeCall
