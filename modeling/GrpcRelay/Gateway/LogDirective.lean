/-
  Log directives — the items of a log filter.

  A directive is a level; or a target, brackets or both, and possibly `=` and
  a level, without which every level counts.  Brackets hold the name of a span
  or, in braces, the name of a field, or both.  A field may have a value after
  `=`, which is a number or a pattern.

  A directive without a span and without a value is for the events whose
  target begins with its own and that have the field it names.  The others are
  for what happens inside of spans, and a gateway has no spans.

  The form of a directive is that of its text without the blanks at both ends,
  but its parts are cut out of the whole text at the same places, so a blank in
  front moves every part.
-/
import GrpcRelay.Gateway.LogLevel
import GrpcRelay.Text.Alphanumeric
import GrpcRelay.Text.Blank
import GrpcRelay.Text.Cut

namespace GrpcRelay.Gateway

open Text

/-- A directive for events: of a target or of all, with a field or not. -/
structure LogDirective where
  target : Option (List Char)
  field : Option (List Char)
  level : LogLevel
  deriving DecidableEq, Repr

/-- A parsed directive. -/
inductive LogRule where
  | events (d : LogDirective)
  /-- The directive is for what happens inside of spans. -/
  | spans
  deriving DecidableEq, Repr

namespace LogDirective

/-- Whether the rest of a pattern is well formed, in `depth` groups and, if `item`, after something
    that can be repeated: groups are closed, and a repetition has something to repeat. -/
def isPatternFrom (depth : Nat) (item : Bool) : List Char → Bool
  | [] => depth == 0
  | ['\x5c'] => false
  | '\x5c' :: _ :: r => isPatternFrom depth true r
  | '(' :: '?' :: r => isPatternFrom (depth + 1) false r
  | '(' :: r => isPatternFrom (depth + 1) false r
  | ')' :: r => 0 < depth && isPatternFrom (depth - 1) true r
  | '|' :: r => isPatternFrom depth false r
  | '\x7b' :: _ => false
  | c :: r =>
    if c = '*' ∨ c = '+' ∨ c = '?' then item && isPatternFrom depth true r
    else isPatternFrom depth true r

/-- Whether a text can be the value of a field: a number or a pattern. -/
def isValue (s : List Char) : Bool :=
  (LogLevel.number? s).isSome || isPatternFrom 0 false s

/-- Whether a target may begin with the character. -/
def canBegin (c : Char) : Bool := c = '-' || c = ':' || c = '_' || isAlphanumeric c

/-- The part of a text from one place to another. -/
def part? (text : List Char) (start stop : Nat) : Option (List Char) :=
  (dropBytes? start text).bind (takeBytes? (stop - start))

/-- The level after the brackets, which end at `place`; `left` is what stands there. -/
def levelAt? (text : List Char) (place : Nat) : (left : List Char) → Option LogLevel
  | [] => some .trace
  | '=' :: _ => (dropBytes? (place + 1) text).bind LogLevel.after?
  | _ => none

/-- The directive with a target and brackets, given the name of the span and the field. -/
def rule? (target span field : Option (List Char)) (level : LogLevel) : Option LogRule :=
  match field with
  | none => some (if span.isNone then .events ⟨target, none, level⟩ else .spans)
  | some [] => none
  | some f =>
    match cutFirst? '=' f with
    | none => some (if span.isNone then .events ⟨target, some f, level⟩ else .spans)
    | some (_, value) => if isValue (value.takeWhile (· ≠ '=')) then some .spans else none

/-- Reads brackets that have been opened at `place`, and what follows them. -/
def brackets? (text : List Char) (target : Option (List Char)) (place : Nat) (s : List Char) :
    Option LogRule :=
  let name := s.takeWhile fun c => c ≠ ']' && c ≠ '\x7b'
  let stop := place + byteLength name
  match s.drop name.length with
  | ']' :: left => do
    rule? target (some (← part? text place stop)) none (← levelAt? text (stop + 1) left)
  | '\x7b' :: r =>
    let field := r.takeWhile (· ≠ '\x7d')
    let close := stop + 1 + byteLength field
    match r.drop field.length with
    | '\x7d' :: ']' :: left => do
      let span ← part? text place stop
      let field ← part? text (stop + 1) close
      rule? target (if span = [] then none else some span) (some field)
        (← levelAt? text (close + 2) left)
    | _ => none
  | _ => none

/-- Reads one directive. -/
def parse? (text : List Char) : Option LogRule :=
  match trim text with
  | [] => none
  | '[' :: r => brackets? text none 1 r
  | c :: r =>
    if canBegin c then
      let word := (c :: r).takeWhile fun c => c ≠ '=' && c ≠ '['
      let stop := byteLength word
      match (c :: r).drop word.length with
      | [] =>
        match LogLevel.ofText? text with
        | some l => some (.events ⟨none, none, l⟩)
        | none => some (.events ⟨some text, none, .trace⟩)
      | '[' :: r => do brackets? text (some (← part? text 0 stop)) (stop + 1) r
      | left => do rule? (some (← part? text 0 stop)) none none (← levelAt? text stop left)
    else none

/-- Whether the directive is for events of a target that have these fields. -/
def isFor (d : LogDirective) (target : String) (fields : List String) : Bool :=
  (match d.target with
    | none => true
    | some t => (after? t target.toList).isSome) &&
  match d.field with
  | none => true
  | some f => fields.contains (String.ofList f)

/-- The length of the target; a directive for all targets comes last. -/
def reach (d : LogDirective) : Nat :=
  match d.target with
  | none => 0
  | some t => byteLength t + 1

/-- Whether the directive is asked before another one for the same event: its target is longer,
    or it alone has a field, or its field comes later in the alphabet. -/
def precedes (d e : LogDirective) : Bool :=
  e.reach < d.reach || (d.reach == e.reach &&
    match d.field, e.field with
    | some _, none => true
    | some f, some g => String.ofList g < String.ofList f
    | none, _ => false)

end LogDirective

end GrpcRelay.Gateway
