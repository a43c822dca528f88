import TrustPath.Json
import TrustPath.Policy

/-!
Settings of a verifier in a form that can be kept as JSON. Every setting may be
missing. `toJson` writes all of them in a fixed order, and `ofJson` reads them
back in any order.
-/

namespace TrustPath

namespace Json

def countBelow256 (value : Json) : Except Fault UInt8 :=
  (value.natural (UInt8.size - 1) "u8").map UInt8.ofNat

def count (value : Json) : Except Fault UInt64 :=
  (value.natural (UInt64.size - 1) "usize").map UInt64.ofNat

def moment (value : Json) : Except Fault DateTime :=
  match value with
  | scalar ⟨.integer (.ofNat seconds), _, stop⟩ =>
    match DateTime.ofSeconds? seconds with
    | some t => .ok t
    | none => .error ⟨.noMoment seconds, stop⟩
  | other => other.wrongKind "seconds since the Unix epoch"

end Json

def DateTime.ofJson (input : Bytes) : Except Json.Fault DateTime := do
  (← Json.ofBytes input).moment

namespace SearchLimits

/-- Reads the bounds; one that is missing is the standard one. -/
def ofJsonValue (value : Json) : Except Json.Fault SearchLimits := do
  let fields ← value.record ["max_signature_checks", "max_candidates"]
      "struct PathBuildingLimits"
  let bound (name : String) (standard : UInt64) : Except Json.Fault UInt64 :=
    match Json.field? name fields with
    | none => .ok standard
    | some value => value.count
  return ⟨← bound "max_signature_checks" standard.maxSignatureChecks,
    ← bound "max_candidates" standard.maxCandidates⟩

def toJson (limits : SearchLimits) : String :=
  "\x7b\"max_signature_checks\":" ++ toString limits.maxSignatureChecks.toNat ++
    ",\"max_candidates\":" ++ toString limits.maxCandidates.toNat ++ "\x7d"

end SearchLimits

/-- Settings of a verifier. -/
structure PolicySettings where
  validationTime : Option DateTime
  maxChainDepth : Option UInt8
  minimumRsaModulus : Option UInt64
  /-- The text of a purpose, which need not be an identifier. -/
  purposeText : Option String
  limits : Option SearchLimits
deriving DecidableEq

namespace PolicySettings

def ofJsonValue (value : Json) : Except Json.Fault PolicySettings := do
  let fields ← value.record
    ["validation_time", "max_chain_depth", "minimum_rsa_modulus",
      "extended_key_usage", "limits"]
    "struct PolicySettings"
  return ⟨← Json.optional Json.moment (Json.field? "validation_time" fields),
    ← Json.optional Json.countBelow256 (Json.field? "max_chain_depth" fields),
    ← Json.optional Json.count (Json.field? "minimum_rsa_modulus" fields),
    ← Json.optional Json.text (Json.field? "extended_key_usage" fields),
    ← Json.optional SearchLimits.ofJsonValue (Json.field? "limits" fields)⟩

/-- Reads settings from a JSON text. What is wrong with the text is logged. -/
def ofJson (input : Bytes) : Logged (Except Failure PolicySettings) :=
  match (Json.ofBytes input).bind ofJsonValue with
  | .ok settings => .quiet (.ok settings)
  | .error fault =>
    .noting .error ("Failed to parse policy settings: " ++ fault.text input)
      (.error (.misconfigured .invalidSettings))

def orNull {α : Type} (write : α → String) : Option α → String
  | none => "null"
  | some a => write a

/-- Writes settings as a JSON text without spaces. -/
def toJson (settings : PolicySettings) : String :=
  "\x7b\"validation_time\":" ++
    orNull (fun t => toString (DateTime.toSeconds t)) settings.validationTime ++
    ",\"max_chain_depth\":" ++
    orNull (fun depth => toString (UInt8.toNat depth)) settings.maxChainDepth ++
    ",\"minimum_rsa_modulus\":" ++
    orNull (fun bits => toString (UInt64.toNat bits))
    settings.minimumRsaModulus ++ ",\"extended_key_usage\":" ++
    orNull Json.quoted settings.purposeText ++
    ",\"limits\":" ++ orNull SearchLimits.toJson settings.limits ++ "\x7d"

/-- The purpose, if one is given. Its text has to be an identifier. -/
def purpose? (settings : PolicySettings) : Except Failure (Option Oid) :=
  match settings.purposeText with
  | none => .ok none
  | some text =>
    match Oid.ofText? text with
    | some purpose => .ok (some purpose)
    | none => .error (.misconfigured .invalidSettings)

end PolicySettings

end TrustPath
