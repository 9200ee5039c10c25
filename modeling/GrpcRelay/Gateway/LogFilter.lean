/-
  Log filters — which events of a log are written.

  A filter is a list of directives separated by commas, empty items skipped.
  Of the directives for an event the most specific decides (`precedes`); a
  directive replaces an earlier one of equal target and field.
-/
import GrpcRelay.Gateway.LogDirective

namespace GrpcRelay.Gateway

open Text

/-- One event of a log. -/
structure LogEvent where
  level : LogLevel
  target : String
  message : String
  /-- The names and texts of further fields. -/
  fields : List (String × String)

namespace LogEvent

/-- The line of an event. -/
def line (e : LogEvent) : String :=
  e.fields.foldl (fun s f => s!"{s} {f.1}={f.2}") s!"{e.level.label} {e.target}: {e.message}"

/-- The names of all fields; the message is one of them. -/
def fieldNames (e : LogEvent) : List String := "message" :: e.fields.map (·.1)

end LogEvent

/-- The directives of a filter, each of a target and field of its own. -/
structure LogFilter where
  directives : List LogDirective
  deriving DecidableEq, Repr

namespace LogFilter

/-- The filter with one level for all events. -/
def ofLevel (l : LogLevel) : LogFilter := ⟨[⟨none, none, l⟩]⟩

/-- Adds a rule in place of an earlier one of equal target and field. -/
def add (f : LogFilter) : LogRule → LogFilter
  | .spans => f
  | .events d =>
    ⟨(f.directives.filter fun e => e.target != d.target || e.field != d.field) ++ [d]⟩

/-- Reads a filter; a text without directives lets only errors through. -/
def parse? (s : String) : Option LogFilter :=
  match ((pieces ',' s.toList).filter (· ≠ [])).mapM LogDirective.parse? with
  | none => none
  | some [] => some (ofLevel .error)
  | some rules => some (rules.foldl add ⟨[]⟩)

/-- The directive that decides on an event. -/
def directive? (f : LogFilter) (e : LogEvent) : Option LogDirective :=
  f.directives.foldl (fun best d =>
    if !d.isFor e.target e.fieldNames then best
    else
      match best with
      | none => some d
      | some b => if d.precedes b then some d else some b) none

/-- Whether an event is written. -/
def allows (f : LogFilter) (e : LogEvent) : Bool :=
  match f.directive? e with
  | none => false
  | some d => e.level.number ≤ d.level.number

end LogFilter

end GrpcRelay.Gateway
