import TrustPath.Path

/-!
The names of a verified client. There is one for each entry of the leaf's list
of alternative names, or none at all if a single entry cannot be shown.
-/

namespace TrustPath

/-- An entry without a name that can be shown: one of a form of its own or for
data interchange, or octets that are no address. -/
def GeneralName.IsUnsupported : GeneralName → Prop
  | .other _ _ => True
  | .ediParty => True
  | .ip octets => octets.length ≠ 4 ∧ octets.length ≠ 16
  | _ => False

namespace SubjectName

def toGeneralName : SubjectName → GeneralName
  | email address => .email address
  | dns name => .dns name
  | ip address => .ip address.octets
  | uri text => .uri text
  | directory name => .directory name
  | registered id => .registered id

variable {entry : GeneralName} {entries : List GeneralName}
  {names : List SubjectName}

theorem ofGeneralName?_eq_some_iff {name : SubjectName} :
    ofGeneralName? entry = some name ↔ name.toGeneralName = entry := by
  constructor
  · intro hname
    cases entry with
    | ip octets =>
        obtain ⟨address, haddress, rfl⟩ := Option.map_eq_some_iff.mp hname
        rw [IpAddress.ofOctets?] at haddress
        split at haddress
        · cases haddress
          rfl
        · cases haddress
    | other type value => cases hname
    | ediParty => cases hname
    | _ =>
        cases hname
        rfl
  · rintro rfl
    cases name with
    | ip address =>
        simp only [toGeneralName, ofGeneralName?, IpAddress.ofOctets?]
        rw [dif_pos address.length_octets, Option.map_some]
    | _ => rfl

theorem ofGeneralName?_eq_none_iff : ofGeneralName? entry = none ↔
      entry.IsUnsupported := by
  cases entry with
  | ip octets =>
      simp [ofGeneralName?, IpAddress.ofOctets?, GeneralName.IsUnsupported]
  | _ => simp [ofGeneralName?, GeneralName.IsUnsupported]

theorem all?_cons (entry : GeneralName) (rest : List GeneralName) :
    all? (entry :: rest) = (ofGeneralName? entry).bind fun name =>
      (all? rest).map (name :: ·) := by
  rw [all?, all?, List.mapM_cons]
  cases ofGeneralName? entry with
  | none => rfl
  | some name => cases rest.mapM ofGeneralName? <;> rfl

/-- The names in a list are one for each entry, in order. -/
theorem all?_eq_some_iff : all? entries = some names ↔
      names.map toGeneralName = entries := by
  induction entries generalizing names with
  | nil => cases names <;> simp [all?]
  | cons entry rest ih =>
      rw [all?_cons, Option.bind_eq_some_iff]
      simp only [ofGeneralName?_eq_some_iff, Option.map_eq_some_iff, ih]
      cases names <;> simp

/-- A list has no names exactly if one of its entries has none. -/
theorem all?_eq_none_iff : all? entries = none ↔ ∃ entry ∈ entries,
      entry.IsUnsupported := by
  simp only [← ofGeneralName?_eq_none_iff]
  induction entries with
  | nil => simp [all?]
  | cons entry rest ih =>
      simp only [all?_cons, List.mem_cons, exists_eq_or_imp, ← ih]
      cases ofGeneralName? entry <;> simp

end SubjectName

namespace VerifiedClient

/-- A client whose path is found is known by its names, one for each entry, or
else is refused. -/
theorem ofPath_cases (v : VerifiedPath) :
    (∃ names, ofPath v = .ok ⟨v, names⟩ ∧
      names.map (List.map SubjectName.toGeneralName) =
        v.path.leaf.subjectAltName?) ∨
    ofPath v = .error .unsupportedName := by
  rw [ofPath]
  cases v.path.leaf.subjectAltName? with
  | none => exact Or.inl ⟨none, rfl, rfl⟩
  | some entries =>
      dsimp only
      cases hnames : SubjectName.all? entries with
      | none => exact Or.inr rfl
      | some names =>
          exact Or.inl ⟨some names, rfl,
            congrArg some (SubjectName.all?_eq_some_iff.mp hnames)⟩

/-- It is refused exactly if one of the entries cannot be shown. -/
theorem ofPath_eq_error_iff (v : VerifiedPath) :
    ofPath v = .error .unsupportedName ↔
      ∃ entries, v.path.leaf.subjectAltName? = some entries ∧
        ∃ entry ∈ entries, entry.IsUnsupported := by
  rw [ofPath]
  cases v.path.leaf.subjectAltName? with
  | none => simp
  | some entries =>
      simp only [Option.some.injEq, exists_eq_left',
        ← SubjectName.all?_eq_none_iff]
      cases SubjectName.all? entries <;> simp

theorem verified_eq_of_ofPath {v : VerifiedPath} {client : VerifiedClient}
    (hnames : ofPath v = .ok client) : client.verified = v := by
  rcases ofPath_cases v with ⟨names, hclient, _⟩ | hunsupported
  · rw [hnames] at hclient
    cases hclient
    rfl
  · rw [hnames] at hunsupported
    cases hunsupported

/-- Whether the names of a client can be read depends on its own certificate
alone. -/
theorem ofPath_ok_of_leaf_eq {v w : VerifiedPath} {client : VerifiedClient}
    (hleaf : w.path.leaf = v.path.leaf) (hnames : ofPath v = .ok client) :
    ∃ other, ofPath w = .ok other := by
  rcases ofPath_cases w with ⟨names, hother, _⟩ | hunsupported
  · exact ⟨_, hother⟩
  · rw [ofPath_eq_error_iff, hleaf, ← ofPath_eq_error_iff, hnames]
      at hunsupported
    cases hunsupported

end VerifiedClient

end TrustPath
