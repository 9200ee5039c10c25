/-
  URI errors — what can be wrong with the text of a URI.
-/
namespace GrpcRelay

/-- Why a text is no URI. -/
inductive UriError where
  | character
  | authority
  | format
  | schemeTooLong
  | empty
  | tooLong
  deriving DecidableEq, Repr

/-- The wording of an error. -/
def UriError.message : UriError → String
  | character => "invalid uri character"
  | authority => "invalid authority"
  | format => "invalid format"
  | schemeTooLong => "scheme too long"
  | empty => "empty string"
  | tooLong => "uri too long"

end GrpcRelay
