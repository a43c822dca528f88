import TrustPath.GeneralName
import TrustPath.Subject.DnsName
import TrustPath.Subject.IpAddress

/-!
Whom a certificate has to be issued for, and whom it is issued for by its list
of alternative names.
-/

namespace TrustPath

/-- Whom a server has to be: a host name or an address. -/
inductive Subject where
  | dns (name : DnsName)
  | ip (address : IpAddress)
deriving DecidableEq

namespace Subject

def text : Subject → String
  | dns name => name.text
  | ip address => address.text

/-- Whether one alternative name is the subject's: a host name pattern that
stands for it, or exactly its octets. Entries that are no valid names are
nobody's. -/
def isNamedBy (subject : Subject) (entry : GeneralName) : Bool :=
  match subject, entry with
  | dns name, .dns pattern => (DnsPattern.ofText? pattern).any (·.isMatch name)
  | ip address, .ip octets => address.octets = octets
  | _, _ => false

/-- Whether one of a certificate's alternative names is the subject's. -/
def isMatch (subject : Subject) (names : List GeneralName) : Bool :=
  names.any subject.isNamedBy

end Subject

/-- A name that a certificate was issued for. -/
inductive SubjectName where
  | email (address : String)
  | dns (name : String)
  | ip (address : IpAddress)
  | uri (text : String)
  | directory (name : Name)
  | registered (id : Oid)
deriving DecidableEq

namespace SubjectName

/-- The name in an entry of the list of alternative names. Names of other forms,
names for data interchange and octets that are no address have none. -/
def ofGeneralName? : GeneralName → Option SubjectName
  | .email address => some (email address)
  | .dns name => some (dns name)
  | .uri text => some (uri text)
  | .directory name => some (directory name)
  | .registered id => some (registered id)
  | .ip octets => (IpAddress.ofOctets? octets).map ip
  | .other _ _ => none
  | .ediParty => none

/-- The names in a list of alternative names, if every entry has one. -/
def all? (names : List GeneralName) : Option (List SubjectName) :=
  names.mapM ofGeneralName?

end SubjectName

end TrustPath
