/-
  Quoted text — a text between double quotes, with every character that could
  not be read off the page escaped.

  The quote and the backslash get a backslash, the null character, tab, line
  feed and carriage return their letters, and every other character that is
  not printable its code point in braces.
-/
import GrpcRelay.Text.Letters
import GrpcRelay.Text.Printable

namespace GrpcRelay.Text

/-- How one character is written inside quotes. -/
def quotedChar (c : Char) : List Char :=
  if c = '\x00' then ['\x5c', '0']
  else if c = '\t' then ['\x5c', 't']
  else if c = '\r' then ['\x5c', 'r']
  else if c = '\n' then ['\x5c', 'n']
  else if c = '\x22' || c = '\x5c' then ['\x5c', c]
  else if isPrintable c then [c]
  else ['\x5c', 'u', '\x7b'] ++ hexText c.toNat ++ ['\x7d']

/-- A text between double quotes. -/
def quoted (s : String) : String :=
  String.ofList ('\x22' :: s.toList.flatMap quotedChar ++ ['\x22'])

end GrpcRelay.Text
