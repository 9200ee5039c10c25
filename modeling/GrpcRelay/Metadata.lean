/-
  Metadata — the headers of a call as a multimap from lower-case keys to
  values, in the order in which they were added.

  What can be seen of a map is, for each key, the list of its values
  (`Metadata.values`); how entries of different keys interleave carries no
  meaning.  A key that ends in `-bin` holds bytes, every other key holds text.
-/
import GrpcRelay.Bytes
import GrpcRelay.Text.Letters

namespace GrpcRelay

/-- A value: text, or the bytes of a binary key. -/
inductive MetadataValue where
  | text (s : String)
  | binary (b : ByteArray)
  deriving DecidableEq

/-- A multimap from keys to values. -/
structure Metadata where
  entries : List (String × MetadataValue)
  deriving DecidableEq

/-- Why a key or a value is refused. -/
inductive MetadataError where
  | invalidKey (key : String)
  | invalidValue (value : String)
  deriving DecidableEq, Repr

namespace Metadata

/-! ## Keys and values -/

/-- The characters of a key: letters, digits and some marks. -/
def isKeyChar (c : Char) : Bool :=
  Text.isLetter c || Text.isDigit c ||
    ['!', '#', '$', '%', '&', '\x27', '*', '+', '-', '.', '^', '_', '\x60', '|', '~'].contains c

/-- Whether a text is a key: 1 to 65535 key characters. -/
def isKey (key : String) : Bool :=
  let cs := key.toList
  cs ≠ [] && cs.length ≤ 65535 && cs.all isKeyChar

/-- Whether a text may be a value: no control character except tab. -/
def isTextValue (value : String) : Bool :=
  value.toList.all fun c => c = '\t' || (' ' ≤ c && c ≠ '\x7f')

/-- Whether a key holds bytes. -/
def isBinaryKey (key : String) : Bool := (Text.lowerString key).endsWith "-bin"

/-! ## Reading and changing -/

def empty : Metadata := ⟨[]⟩

instance : EmptyCollection Metadata := ⟨empty⟩
instance : Inhabited Metadata := ⟨empty⟩

/-- The values of a key, in order. -/
def values (m : Metadata) (key : String) : List MetadataValue :=
  (m.entries.filter fun e => e.1 == key).map Prod.snd

/-- The first value of a key. -/
def first? (m : Metadata) (key : String) : Option MetadataValue := (m.values key).head?

/-- The first value of a key, if it is text. -/
def firstText? (m : Metadata) (key : String) : Option String :=
  match m.first? key with
  | some (.text s) => some s
  | _ => none

def contains (m : Metadata) (key : String) : Bool := m.entries.any fun e => e.1 == key

/-- The keys, each once. -/
def keys (m : Metadata) : List String := (m.entries.map Prod.fst).eraseDups

/-- The number of values. -/
def size (m : Metadata) : Nat := m.entries.length

def isEmpty (m : Metadata) : Bool := m.entries.isEmpty

/-- One more value of a key, after those it has. -/
def append (m : Metadata) (key : String) (value : MetadataValue) : Metadata :=
  ⟨m.entries ++ [(key, value)]⟩

/-- The map without a key. -/
def erase (m : Metadata) (key : String) : Metadata :=
  ⟨m.entries.filter fun e => e.1 != key⟩

/-- The map without any of the keys. -/
def eraseAll (m : Metadata) (keys : List String) : Metadata :=
  ⟨m.entries.filter fun e => !keys.contains e.1⟩

/-- A key with this value only. -/
def insert (m : Metadata) (key : String) (value : MetadataValue) : Metadata :=
  (m.erase key).append key value

/-- The map with the keys of `other` taking the values that they have there. -/
def override (m other : Metadata) : Metadata :=
  ⟨(m.eraseAll other.keys).entries ++ other.entries⟩

/-- Adds a value under a checked key, in lower case. -/
def add (m : Metadata) (key : String) (value : MetadataValue) : Except MetadataError Metadata :=
  if isKey key then
    match value with
    | .binary b => .ok (m.append (Text.lowerString key) (.binary b))
    | .text s =>
      if isTextValue s then .ok (m.append (Text.lowerString key) (.text s))
      else .error (.invalidValue s)
  else .error (.invalidKey key)

/-- The keys in order of their characters, each with its values. -/
def sorted (m : Metadata) : List (String × List MetadataValue) :=
  (m.keys.mergeSort (fun a b => decide (a ≤ b))).map fun k => (k, m.values k)

end Metadata

/-- Whether a text shows in full: printable ASCII and tab only. -/
def MetadataValue.isVisible (s : String) : Bool :=
  s.toList.all fun c => c = '\t' || (' ' ≤ c && c ≤ '~')

end GrpcRelay
