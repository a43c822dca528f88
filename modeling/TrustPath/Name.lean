import TrustPath.Der.Value

/-!
Distinguished names: a sequence of relative names, each a set of typed attribute
values. Reading a name puts every set into the order of its encoding, so a name
is written back canonically.
-/

namespace TrustPath

open Der

/-- An attribute of a name: its type, and a value of any kind. -/
structure Attribute where
  kind : Oid
  value : Element
deriving DecidableEq

namespace Attribute

def ofElement? (e : Element) : Option Attribute := do
  match ← e.sequence? with
  | [kind, value] => return ⟨← oid? kind, value⟩
  | _ => none

def toElement (a : Attribute) : Element :=
  .around .sequence [oidElement a.kind, a.value]

/-- The order of attributes in a set: that of their encodings. -/
def le (a b : Attribute) : Bool :=
  Bytes.le a.toElement.encode b.toElement.encode

end Attribute

/-- A relative distinguished name: attributes in the order of their
encodings. -/
abbrev RelativeName := List Attribute

namespace RelativeName

/-- Reads a set of attributes in any order; one that occurs twice is refused. -/
def ofElement? (e : Element) : Option RelativeName := do
  let attributes ← (← e.inside? .set).mapM Attribute.ofElement?
  if attributes.Nodup then return attributes.mergeSort Attribute.le else none

def toElement (rdn : RelativeName) : Element :=
  .around .set (rdn.map Attribute.toElement)

end RelativeName

/-- A distinguished name, from the root of the directory downwards. -/
structure Name where
  rdns : List RelativeName
deriving DecidableEq

namespace Name

def ofElement? (e : Element) : Option Name := do
  return ⟨← (← e.sequence?).mapM RelativeName.ofElement?⟩

def toElement (name : Name) : Element :=
  .around .sequence (name.rdns.map RelativeName.toElement)

def isEmpty (name : Name) : Bool :=
  name.rdns.isEmpty

end Name

end TrustPath
