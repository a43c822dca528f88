import TrustPath.Bytes
import TrustPath.Text.Unicode.Case
import TrustPath.Text.Unicode.Visible

/-!
Quoted texts for diagnostics: a text between double quotes, in which quotes,
backslashes and control characters are escaped, and characters that cannot be
seen by themselves are shown by number.
-/

namespace TrustPath.Text

open Unicode

/-- The lowercase base-16 digits of a number, without leading zeros. -/
def base16 (n : Nat) : List Char :=
  Nat.toDigits 16 n

def numbered (c : Char) : List Char :=
  ['\\', 'u', '\x7b'] ++ base16 c.toNat ++ ['\x7d']

def quotedChar (c : Char) : List Char :=
  if c = '\x00' then ['\\', '0']
  else if c = '\t' then ['\\', 't']
  else if c = '\r' then ['\\', 'r']
  else if c = '\n' then ['\\', 'n']
  else if c = '\\' || c = '"' then ['\\', c]
  else if inRanges graphemeExtendRanges c.toNat ||
    inRanges invisibleRanges c.toNat then numbered c
  else [c]

def quoted (text : String) : String :=
  "\"" ++ String.ofList (text.toList.flatMap quotedChar) ++ "\""

end TrustPath.Text
