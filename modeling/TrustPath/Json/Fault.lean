import TrustPath.Bytes

/-!
What can be wrong with a JSON text, where, and how messages say it.
-/

namespace TrustPath.Json

/-- What is wrong with a JSON text, or with the value it writes. -/
inductive Cause where
  | endInValue
  | endInArray
  | endInObject
  | endInText
  | noValue
  | noWord
  | noColon
  | noArrayEnd
  | noObjectEnd
  | noTextKey
  | trailingComma
  | trailingOctets
  | badNumber
  | badEscape
  | controlOctet
  | badText
  | wrongKind (found expected : String)
  | outOfRange (found expected : String)
  | repeatedKey (key : String)
  | noMoment (seconds : Nat)
deriving DecidableEq

namespace Cause

def text : Cause → String
  | endInValue => "EOF while parsing a value"
  | endInArray => "EOF while parsing a list"
  | endInObject => "EOF while parsing an object"
  | endInText => "EOF while parsing a string"
  | noValue => "expected value"
  | noWord => "expected ident"
  | noColon => "expected `:`"
  | noArrayEnd => "expected `,` or `]`"
  | noObjectEnd => "expected `,` or `\x7d`"
  | noTextKey => "key must be a string"
  | trailingComma => "trailing comma"
  | trailingOctets => "trailing characters"
  | badNumber => "invalid number"
  | badEscape => "invalid escape"
  | controlOctet =>
    "control character (\\u0000-\\u001F) found while parsing a string"
  | badText => "invalid unicode code point"
  | wrongKind found expected =>
    "invalid type: " ++ found ++ ", expected " ++ expected
  | outOfRange found expected =>
    "invalid value: " ++ found ++ ", expected " ++ expected
  | repeatedKey key => "duplicate field `" ++ key ++ "`"
  | noMoment seconds => "time of interest out of range: " ++ toString seconds

def isInText : Cause → Bool
  | endInText | badEscape | controlOctet => true
  | _ => false

end Cause

/-- A cause, and the number of octets up to and with the place where it
shows. -/
structure Fault where
  cause : Cause
  offset : Nat
deriving DecidableEq

namespace Fault

def line (f : Fault) (input : Bytes) : Nat :=
  (input.take f.offset).count 0x0a + 1

/-- The number of octets on its line up to and with the place of a fault. -/
def column (f : Fault) (input : Bytes) : Nat :=
  ((input.take f.offset).reverse.takeWhile (· ≠ 0x0a)).length

def text (f : Fault) (input : Bytes) : String :=
  f.cause.text ++ " at line " ++ toString (f.line input) ++ " column " ++
    toString (f.column input)

end Fault

end TrustPath.Json
