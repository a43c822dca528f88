import TrustPath.Calendar
import TrustPath.Der.Value

/-!
The dates between which a certificate is valid. A date is written with two
digits of the year, for 1950 to 2049, or with four; both forms end in `Z` and
have no fractions of a second.
-/

namespace TrustPath

open Der

/-- A date in a certificate, with the form in which it is written. -/
inductive CertificateTime where
  | utc (moment : DateTime)
  | general (moment : DateTime)
deriving DecidableEq

namespace CertificateTime

def moment : CertificateTime → DateTime
  | utc t => t
  | general t => t

def twoDigits? (a b : UInt8) : Option Nat :=
  if 48 ≤ a.toNat ∧ a.toNat ≤ 57 ∧ 48 ≤ b.toNat ∧ b.toNat ≤ 57 then
    some (10 * (a.toNat - 48) + (b.toNat - 48))
  else none

def digitPairs? : Bytes → Option (List Nat)
  | [z] => if z = 0x5a then some [] else none
  | a :: b :: rest => do
    let n ← twoDigits? a b
    return n :: (← digitPairs? rest)
  | [] => none

/-- A two-digit year from fifty on belongs to the twentieth century. -/
def fullYear (yy : Nat) : Nat :=
  if yy < 50 then 2000 + yy else 1900 + yy

def ofElement? (e : Element) : Option CertificateTime :=
  if e.tag = .utcTime then do
    match ← digitPairs? e.contents with
    | [yy, month, day, hour, minute, second] =>
      return utc (← DateTime.ofFields? (fullYear yy) month day hour
        minute second)
    | _ => none
  else if e.tag = .generalizedTime then do
    match ← digitPairs? e.contents with
    | [century, yy, month, day, hour, minute, second] =>
      return general (← DateTime.ofFields? (100 * century + yy) month day hour
        minute second)
    | _ => none
  else none

def twoDigits (n : Nat) : Bytes :=
  [UInt8.ofNat (48 + n / 10 % 10), UInt8.ofNat (48 + n % 10)]

def encodePairs (pairs : List Nat) : Bytes :=
  pairs.flatMap twoDigits ++ [0x5a]

def toElement : CertificateTime → Element
  | utc t =>
    ⟨.utcTime, encodePairs [t.year % 100, t.month, t.day, t.hour, t.minute,
      t.second]⟩
  | general t =>
    ⟨.generalizedTime,
      encodePairs [t.year / 100, t.year % 100, t.month, t.day, t.hour, t.minute,
        t.second]⟩

end CertificateTime

/-- The first and the last moment at which a certificate is valid. -/
structure Validity where
  notBefore : CertificateTime
  notAfter : CertificateTime
deriving DecidableEq

namespace Validity

def ofElement? (e : Element) : Option Validity := do
  match ← e.sequence? with
  | [notBefore, notAfter] =>
    return ⟨← CertificateTime.ofElement? notBefore,
      ← CertificateTime.ofElement? notAfter⟩
  | _ => none

def toElement (v : Validity) : Element :=
  .around .sequence [v.notBefore.toElement, v.notAfter.toElement]

end Validity

end TrustPath
