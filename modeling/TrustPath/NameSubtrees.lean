import TrustPath.Extension.Content
import TrustPath.Failure
import TrustPath.Subject

/-!
Name constraints on host names and addresses. A wildcard stands for every name
one label below its parent: it is permitted if all of these names are, and
excluded if one of them may be. Subtrees and names of other forms do not count.
-/

namespace TrustPath

/-- The subtrees for host names and addresses that one extension lists. -/
structure NameSubtrees where
  permittedDns : List String
  excludedDns : List String
  permittedIp : List Bytes
  excludedIp : List Bytes
deriving DecidableEq

namespace NameSubtrees

def dnsBases (subtrees : List Subtree) : List String :=
  subtrees.filterMap fun subtree =>
    match subtree.base with
    | .dns name => some name
    | _ => none

def ipBases (subtrees : List Subtree) : List Bytes :=
  subtrees.filterMap fun subtree =>
    match subtree.base with
    | .ip octets => some octets
    | _ => none

/-- The subtrees of an extension; a list that is missing is empty. -/
def ofConstraints (constraints : NameConstraints) : NameSubtrees where
  permittedDns := dnsBases (constraints.permitted.getD [])
  excludedDns := dnsBases (constraints.excluded.getD [])
  permittedIp := ipBases (constraints.permitted.getD [])
  excludedIp := ipBases (constraints.excluded.getD [])

/-- Whether something is in no excluded subtree and, if there are permitted
subtrees, in one of them. -/
def isPermitted {Range : Type} (permitted excluded : List Range)
    (isCovered isTouched : Range → Bool) : Bool :=
  !excluded.any isTouched && (permitted.isEmpty || permitted.any isCovered)

def plain (constraint : List Char) : List Char :=
  match constraint with
  | '.' :: domain => DnsName.lower domain
  | domain => DnsName.lower domain

/-- Whether a constraint covers every name one label below a parent. -/
def coversChildren (parent : DnsName) (constraint : List Char) : Bool :=
  parent.isWithin (plain constraint)

/-- Whether a constraint may cover a name one label below a parent: it covers
the parent, or is a name below it. -/
def touchesChildren (parent : DnsName) (constraint : List Char) : Bool :=
  parent.isWithin (plain constraint) ||
    (DnsName.ofChars? (plain constraint)).any fun name =>
      name ≠ parent && name.isWithin parent.chars

/-- Whether a host name lies within the subtrees. -/
def permitsName (subtrees : NameSubtrees) (name : DnsName) : Bool :=
  isPermitted subtrees.permittedDns subtrees.excludedDns
    (fun c => name.isWithin c.toList) (fun c => name.isWithin c.toList)

/-- Whether all names that a pattern stands for lie within the subtrees. -/
def permitsPattern (subtrees : NameSubtrees) : DnsPattern → Bool
  | .exact name => subtrees.permitsName name
  | .wildcard parent =>
    isPermitted subtrees.permittedDns subtrees.excludedDns
      (fun c => coversChildren parent c.toList)
      (fun c => touchesChildren parent c.toList)

/-- Whether an address lies within the subtrees. -/
def permitsAddress (subtrees : NameSubtrees) (address : IpAddress) : Bool :=
  isPermitted subtrees.permittedIp subtrees.excludedIp
    (fun range => address.isWithin range) (fun range => address.isWithin range)

/-- Whether an entry lies within the subtrees. One that is no host name pattern,
or no address, cannot be shown to, so there must be no subtrees of its form. -/
def permits (subtrees : NameSubtrees) : GeneralName → Bool
  | .dns text =>
    match DnsPattern.ofText? text with
    | some pattern => subtrees.permitsPattern pattern
    | none => subtrees.permittedDns.isEmpty && subtrees.excludedDns.isEmpty
  | .ip octets =>
    match IpAddress.ofOctets? octets with
    | some address => subtrees.permitsAddress address
    | none => subtrees.permittedIp.isEmpty && subtrees.excludedIp.isEmpty
  | _ => true

/-- How an entry is named when it is refused: a host name as it is, octets in
base 16. -/
def entryText : GeneralName → String
  | .dns text => text
  | .ip octets =>
    "[" ++ ", ".intercalate (octets.map fun b => Bytes.hex [b]) ++ "]"
  | _ => ""

/-- Fails on the first entry that does not lie within the subtrees. -/
def check (subtrees : NameSubtrees) : List GeneralName → Except Failure Unit
  | [] => .ok ()
  | entry :: rest =>
    if subtrees.permits entry then check subtrees rest
    else .error (.rejectedAs .nameConstraintsViolation
      ("subjectAltName entry " ++ entryText entry ++
        " violates name constraints"))

end NameSubtrees

end TrustPath
