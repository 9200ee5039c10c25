/-
  Method paths — the name of a method as it stands in the path of a call,
  `/service/method`.

  Reading takes away at most one slash in front and cuts at the next; both
  parts must be non-empty and hold neither a slash nor a blank.
-/
import GrpcRelay.Text.Blank
import GrpcRelay.Text.Cut

namespace GrpcRelay

open Text

/-- The two parts of a method path. -/
inductive PathPart where
  | service
  | method
  deriving DecidableEq, Repr

def PathPart.name : PathPart → String
  | service => "service"
  | method => "method"

/-- Why a text is no method path. -/
inductive PathError where
  /-- There is no slash between the parts. -/
  | noSeparator (path : String)
  | emptyPart (part : PathPart)
  /-- The part holds a slash or a blank. -/
  | badCharacter (part : PathPart) (text : String)
  deriving DecidableEq, Repr

/-- The wording of an error. -/
def PathError.message : PathError → String
  | noSeparator path => s!"missing '/' separator: '{path}'"
  | emptyPart part => s!"{part.name} name is empty"
  | badCharacter part text => s!"{part.name} name contains '/' or whitespace: '{text}'"

/-- A method of a service. -/
structure MethodPath where
  service : String
  method : String
  deriving DecidableEq, Repr

namespace MethodPath

/-- Whether a character may not stand in a part. -/
def isBreak (c : Char) : Bool := c = '/' || isBlank c

/-- A part that is neither empty nor broken by a slash or a blank. -/
def check (part : PathPart) (text : String) : Except PathError Unit :=
  if text.toList = [] then .error (.emptyPart part)
  else if text.toList.any isBreak then .error (.badCharacter part text)
  else .ok ()

/-- The path of a service and a method, checked in this order. -/
def ofParts (service method : String) : Except PathError MethodPath := do
  check .service service
  check .method method
  pure ⟨service, method⟩

/-- The text without a slash in front. -/
def dropSlash : List Char → List Char
  | '/' :: r => r
  | s => s

/-- Reads a path; the slash in front may be missing. -/
def parse (path : String) : Except PathError MethodPath :=
  match cutFirst? '/' (dropSlash path.toList) with
  | none => .error (.noSeparator path)
  | some (service, method) => ofParts (.ofList service) (.ofList method)

/-- The text of a path: `/service/method`. -/
def text (p : MethodPath) : String := "/" ++ p.service ++ "/" ++ p.method

/-- The package of the service: what stands before its last dot. -/
def package? (p : MethodPath) : Option String :=
  (cutLast? '.' p.service.toList).map fun c => .ofList c.1

end MethodPath

end GrpcRelay
