/-
  Log levels — how important an event is, and how much a filter lets through.
-/
import GrpcRelay.Text.Letters

namespace GrpcRelay.Gateway

open Text

/-- How much a directive lets through, or how important an event is. -/
inductive LogLevel where
  | off
  | error
  | warn
  | info
  | debug
  | trace
  deriving DecidableEq, Repr

namespace LogLevel

/-- The number of a level; a higher one lets more through. -/
def number : LogLevel → Nat
  | off => 0
  | error => 1
  | warn => 2
  | info => 3
  | debug => 4
  | trace => 5

/-- The name in capitals, as events are written. -/
def label : LogLevel → String
  | off => "OFF"
  | error => "ERROR"
  | warn => "WARN"
  | info => "INFO"
  | debug => "DEBUG"
  | trace => "TRACE"

def all : List LogLevel := [off, error, warn, info, debug, trace]

/-- Reads a number, which may have a plus sign in front. -/
def number? : List Char → Option Nat
  | '+' :: r => decimal? r
  | s => decimal? s

/-- Reads a name in any case, or a number. -/
def ofText? (s : List Char) : Option LogLevel :=
  all.find? fun l => lowerText l.label.toList == lowerText s || number? s == some l.number

/-- Reads what stands after an equals sign; nothing there means every level. -/
def after? : List Char → Option LogLevel
  | [] => some .trace
  | s => ofText? s

end LogLevel

end GrpcRelay.Gateway
