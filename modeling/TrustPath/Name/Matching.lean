import TrustPath.Name.Text
import TrustPath.Text.Folding

/-!
When two names are taken to be the same: they have the same parts with the same
attribute types, and values that differ at most in letter case and white space.
Values that are no text are compared by the text of their encoding; one that
cannot be encoded matches only as a piece of an equal part.
-/

namespace TrustPath

open Der

namespace Attribute

def valueText? (a : Attribute) : Option String :=
  if a.value.tag = .printableString then printable? a.value.contents
  else if a.value.tag = .utf8String then Bytes.text? a.value.contents
  else if a.value.tag = .ia5String then ascii? a.value.contents
  else none

/-- The text by which values are compared: that of the value, or else that of
its encoding. -/
def comparisonText (a : Attribute) : String :=
  a.valueText?.getD a.opaqueText

/-- Whether there is a text to compare: a value that is no text must not be too
long to be encoded. -/
def isComparable (a : Attribute) : Bool :=
  a.valueText?.isSome || a.value.encode.length ≤ maxLength

/-- Whether two attributes have one type and values with one folded text. -/
def isMatch (a b : Attribute) : Bool :=
  a.kind = b.kind && a.isComparable && b.isComparable &&
    Text.fold a.comparisonText = Text.fold b.comparisonText

end Attribute

/-- Whether two relative names are equal, or have matching attributes, place by
place. -/
def RelativeName.isMatch (a b : RelativeName) : Bool :=
  a.length = b.length && (a = b || (a.zip b).all fun pair =>
    pair.1.isMatch pair.2)

/-- Whether two names have matching parts, place by place. -/
def Name.isMatch (a b : Name) : Bool :=
  a.rdns.length = b.rdns.length &&
    (a.rdns.zip b.rdns).all fun pair => RelativeName.isMatch pair.1 pair.2

end TrustPath
