import TrustPath.Name

/-!
General names: the forms in which extensions name somebody or something.
-/

namespace TrustPath

open Der

/-- A name in one of eight forms. Of a name for electronic data interchange only
the form is kept. -/
inductive GeneralName where
  | other (type : Oid) (value : Element)
  | email (address : String)
  | dns (name : String)
  | directory (name : Name)
  | ediParty
  | uri (text : String)
  | ip (octets : Bytes)
  | registered (id : Oid)
deriving DecidableEq

namespace GeneralName

/-- A name of a form of its own: its type, and a value tagged [0]. -/
def other? (contents : Bytes) : Option GeneralName := do
  match ← elements? contents with
  | type :: rest =>
    match takeField 0 rest with
    | (some field, []) =>
      if field.tag.isConstructed then
        match ← elements? field.contents with
        | [value] => return other (← oid? type) value
        | _ => none
      else none
    | _ => none
  | [] => none

def holdsDirectoryString (field : Element) : Bool :=
  field.tag.isConstructed &&
    match elements? field.contents with
    | some [text] => (directoryString? text).isSome
    | _ => false

/-- A name for electronic data interchange: who assigned it, tagged [0], which
may be missing, and the party, tagged [1]. -/
def ediParty? (contents : Bytes) : Option GeneralName := do
  let (assigner, rest) := takeField 0 (← elements? contents)
  match takeField 1 rest with
  | (some party, []) =>
    if assigner.all holdsDirectoryString &&
      holdsDirectoryString party then some ediParty else none
  | _ => none

def directory? (contents : Bytes) : Option GeneralName := do
  match ← elements? contents with
  | [name] => return directory (← Name.ofElement? name)
  | _ => none

/-- Reads a name: the tag's number gives the form, and whether it has to be
constructed. -/
def ofElement? (e : Element) : Option GeneralName :=
  if e.tag.isContext then
    match e.tag.number, e.tag.isConstructed with
    | 0, true => other? e.contents
    | 1, false => (ascii? e.contents).map email
    | 2, false => (ascii? e.contents).map dns
    | 4, true => directory? e.contents
    | 5, true => ediParty? e.contents
    | 6, false => (ascii? e.contents).map uri
    | 7, false => some (ip e.contents)
    | 8, false => (Oid.ofContent? e.contents).map registered
    | _, _ => none
  else none

/-- Reads the contents of a sequence of names, which may be empty. -/
def list? (contents : Bytes) : Option (List GeneralName) := do
  (← elements? contents).mapM ofElement?

end GeneralName

end TrustPath
