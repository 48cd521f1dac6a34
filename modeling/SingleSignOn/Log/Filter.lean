import SingleSignOn.Log.Directive

namespace SingleSignOn.Log

/-!
# Which events are logged

A filter is a set of directives.  Of those that can be applied to an event
without its spans the most specific one decides.  Where it does not let an
event pass, a directive for a span around the event may still do so.

The directives that an operator gives are joined by some of the program's
own, which keep the libraries below it quiet.
-/

/-- The directives of a filter. -/
structure Filter where
  /-- Those that can be applied to an event without its spans. -/
  standing : List Directive
  /-- Those that take effect inside of spans. -/
  spanwise : List Directive
  deriving DecidableEq, Repr

namespace Filter

/-- The filter without directives. -/
def empty : Filter := ⟨[], []⟩

/-- Directives with one more, which replaces one for the same things. -/
def put (directives : List Directive) (directive : Directive) : List Directive :=
  directive :: directives.filter fun other => { other with rank := directive.rank } != directive

/-- The filter with one more directive. -/
def add (filter : Filter) (directive : Directive) : Filter :=
  { standing := if directive.standsAlone then put filter.standing directive else filter.standing
    spanwise := if directive.looksAtSpans then put filter.spanwise directive else filter.spanwise }

/-- The texts between commas, the empty ones left out. -/
def splitAtCommas (text : List Char) : List (List Char) :=
  (text.foldr (fun char parts =>
    match parts with
    | part :: rest => if char = ',' then [] :: part :: rest else (char :: part) :: rest
    | [] => [[char]]) [[]]).filter fun part => !part.isEmpty

/-- Reads a list of directives. -/
def parse? (text : String) : Option Filter := do
  let directives ← (splitAtCommas text.toList).mapM Directive.parse?
  return directives.foldl add empty

/-- Whether one directive is more specific than another that is meant for the
same target: it names more of the target, or it names a field and the other
does not.  Of two that name different fields one is settled on. -/
def precedes (one other : Directive) : Bool :=
  let length (directive : Directive) : Nat := (directive.target.map fun front => front.length + 1).getD 0
  let name (directive : Directive) : String := (directive.field.map FieldTest.name).getD ""
  length other < length one ||
    (length one = length other &&
      if one.field.isSome = other.field.isSome then name other < name one else one.field.isSome)

/-- The most specific of some directives. -/
def mostSpecific? (directives : List Directive) : Option Directive :=
  directives.foldl (fun best directive =>
    match best with
    | none => some directive
    | some other => if precedes directive other then some directive else best) none

/-- Whether the most specific of some directives lets a level pass. -/
def passes (directives : List Directive) (level : Level) : Bool :=
  (mostSpecific? directives).any fun directive => level.rank ≤ directive.rank

/-- Whether an event is let pass without regard to its spans. -/
def passesAlone (filter : Filter) (event : Event) : Bool :=
  let fields : Fields := ("message", .bare event.message) :: event.fields
  passes (filter.standing.filter fun directive =>
    directive.meansTarget event.target && directive.field.all (·.accepts fields)) event.level

/-- The directives that take effect inside of a span unless the values of its
fields are others. -/
def concerning (filter : Filter) (span : Span) : List Directive :=
  filter.spanwise.filter fun directive =>
    directive.meansTarget span.target && directive.span.all (· == span.name) &&
      directive.field.all fun test => (span.fields.lookup test.name).isSome

/-- The rank up to which events are let pass inside of a span. -/
def rankWithin (filter : Filter) (span : Span) : Nat :=
  ((filter.concerning span).filter fun directive => directive.field.all (·.accepts span.fields)).foldl
    (fun rank directive => max rank directive.rank) 0

/-- Whether a span is recorded.  One that directives are concerned with is;
for any other one the fields of a directive do not count. -/
def records (filter : Filter) (span : Span) : Bool :=
  !(filter.concerning span).isEmpty ||
    passes (filter.standing.filter fun directive => directive.meansTarget span.target) span.level

/-- Whether an event is logged. -/
def enables (filter : Filter) (event : Event) : Bool :=
  filter.passesAlone event || event.spans.any fun span => event.level.rank ≤ filter.rankWithin span

/-- The libraries that are kept quiet. -/
def quietTargets : List String := ["sqlx", "hyper", "h2", "tonic", "opentelemetry"]

/-- The filter of a run, from what the operator gave.  What cannot be read
counts as not given. -/
def ofOperator (given : Option String) : Filter :=
  let basis := (given.bind parse?).getD (empty.add ⟨none, none, none, Level.info.rank⟩)
  quietTargets.foldl (fun filter target => filter.add ⟨some target, none, none, Level.warn.rank⟩) basis

end Filter

end SingleSignOn.Log
