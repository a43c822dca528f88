import TrustPath.Name
import TrustPath.Oid.ShortName

/-!
The text of a distinguished name: relative names from the last to the first,
joined by commas, and attributes joined by plus signs. An attribute of a known
type with a textual value is written `KEY=value` with escapes; any other is
written as its identifier and the base-16 text of its encoded value.
-/

namespace TrustPath

open Der

namespace Attribute

def displayText? (a : Attribute) : Option String :=
  if a.value.tag = .ia5String then ascii? a.value.contents
    else directoryString? a.value

def opaqueText (a : Attribute) : String :=
  a.kind.text ++ "=#" ++ Bytes.hex a.value.encode

def isSpecial (c : Char) : Bool :=
  ['"', '+', ',', ';', '<', '>', '\\'].contains c

/-- One character of a value, escaped as its place asks for: a hash sign at the
start, and a space at the start or the end, need a backslash too. Control
characters are written in base 16. -/
def escapeChar (isFirst isLast : Bool) (c : Char) : List Char :=
  if c = '#' && isFirst || c = ' ' && (isFirst || isLast) ||
    isSpecial c then ['\\', c]
  else if c.toNat < 0x20 || c.toNat = 0x7f then '\\' :: Bytes.hexPair
    (UInt8.ofNat c.toNat)
  else [c]

def escapeFrom (isFirst : Bool) : List Char → List Char
  | [] => []
  | c :: rest => escapeChar isFirst rest.isEmpty c ++ escapeFrom false rest

def text (a : Attribute) : String :=
  match a.kind.shortName?, a.displayText? with
  | some key, some value =>
      key ++ "=" ++ String.ofList (escapeFrom true value.toList)
  | _, _ => a.opaqueText

end Attribute

def Name.text (name : Name) : String :=
  ",".intercalate (name.rdns.reverse.map fun rdn =>
    "+".intercalate (rdn.map Attribute.text))

end TrustPath
