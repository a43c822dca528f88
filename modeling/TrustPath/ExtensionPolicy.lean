import TrustPath.Policy

/-!
Rules on the extensions of certificates in one role. A rule says whether an
extension may appear, whether it has to be critical, and how its content is
checked. Extensions without a rule are accepted as they are.
-/

namespace TrustPath

/-- What a rule asks of the critical flag. -/
inductive Criticality where
  | critical
  | nonCritical
  | agnostic
deriving DecidableEq

namespace Criticality

def permits : Criticality → Bool → Bool
  | critical, flag => flag
  | nonCritical, flag => !flag
  | agnostic, _ => true

def name : Criticality → String
  | critical => "Critical"
  | nonCritical => "NonCritical"
  | agnostic => "Agnostic"

end Criticality

/-- Whether an extension may appear. -/
inductive Disposition where
  | notPresent
  | maybePresent
  | mustBePresent
deriving DecidableEq

def Disposition.name : Disposition → String
  | notPresent => "NotPresent"
  | maybePresent => "MaybePresent"
  | mustBePresent => "MustBePresent"

/-- A check of the content of an extension, which is given as it stands in the
certificate, or not at all if it is absent. -/
abbrev ExtensionValidator := Policy → EncodedCertificate → Option Extension →
    Except Failure Unit

/-- The rule for one extension. -/
structure ExtensionRule where
  id : Oid
  disposition : Disposition
  criticality : Criticality
  validator : Option ExtensionValidator

namespace ExtensionRule

/-- The extension has to be absent; nothing else is asked. -/
def notPresent (id : Oid) : ExtensionRule :=
  ⟨id, .notPresent, .agnostic, none⟩

/-- The rule without what does not count: of one for an absent extension only
the identifier does. -/
def normalized (rule : ExtensionRule) : ExtensionRule :=
  if rule.disposition = .notPresent then notPresent rule.id else rule

def diagnosticText (rule : ExtensionRule) : String :=
  "ExtensionRule \x7b oid: ObjectIdentifier(" ++ rule.id.text ++
    "), disposition: " ++ rule.disposition.name ++ ", criticality: " ++
    rule.criticality.name ++ ", validator: " ++
    toString rule.validator.isSome ++ " \x7d"

def violation (rule : ExtensionRule) (c : EncodedCertificate)
    (message : String) : Failure :=
  .rejectedFor .extensionPolicyViolation rule.id
    (c.subject.text ++ ": " ++ message)

/-- What a validator's failure becomes: a failure of the rule, with the
validator's message. -/
def ofValidator (rule : ExtensionRule) (c : EncodedCertificate) :
    Failure → Failure
  | .rejected r => .rejectedFor .extensionPolicyViolation rule.id r.message
  | failure => rule.violation c ("validator failed: " ++ failure.text)

/-- Whether the extension may be there, or absent, and whether its flag is as
the rule asks. -/
def checkPresence (rule : ExtensionRule) (c : EncodedCertificate) :
    Option Extension → Except Failure Unit
  | none =>
    if rule.disposition = .mustBePresent then
      .error (rule.violation c "required extension is absent")
    else .ok ()
  | some x =>
    if rule.disposition = .notPresent then
      .error (rule.violation c "extension must not be present")
    else if rule.criticality.permits x.critical then .ok ()
    else .error (rule.violation c
      (if x.critical then "extension must not be marked critical"
        else "extension must be marked critical"))

/-- Runs the validator, except that of a rule for an absent extension. -/
def checkContent (rule : ExtensionRule) (policy : Policy)
    (c : EncodedCertificate) (x : Option Extension) : Except Failure Unit :=
  if rule.disposition = .notPresent then .ok ()
  else match rule.validator with
    | none => .ok ()
    | some validator => (validator policy c x).mapError (rule.ofValidator c)

def check (rule : ExtensionRule) (policy : Policy) (c : EncodedCertificate) :
    Except Failure Unit := do
  let x ← c.findExtension rule.id
  rule.checkPresence c x
  rule.checkContent policy c x

end ExtensionRule

/-- Rules for the certificates in one role, at most one for each extension. -/
structure ExtensionPolicy where
  rules : List ExtensionRule

namespace ExtensionPolicy

/-- No rules: every extension is accepted. -/
def permitAll : ExtensionPolicy :=
  ⟨[]⟩

def rule? (policy : ExtensionPolicy) (id : Oid) : Option ExtensionRule :=
  policy.rules.find? fun rule => rule.id = id

/-- Adds a rule; a second one for the same extension is refused. -/
def add (policy : ExtensionPolicy) (rule : ExtensionRule) :
    Except Failure ExtensionPolicy :=
  if (policy.rule? rule.id).isSome then
    .error (.misconfigured (.duplicateExtensionRule rule.id))
  else .ok ⟨policy.rules ++ [rule]⟩

/-- Adds a rule without what does not count. -/
def govern (policy : ExtensionPolicy) (rule : ExtensionRule) :
    Except Failure ExtensionPolicy :=
  policy.add rule.normalized

/-- Adds the rows of a table in order, up to the first that is refused. -/
def addAll (policy : ExtensionPolicy) : List ExtensionRule →
      Except Failure ExtensionPolicy
  | [] => .ok policy
  | rule :: rest => do (← policy.add rule).addAll rest

/-- Adds tables in order, up to the first that has a row which is refused. -/
def addTables (policy : ExtensionPolicy) :
    List (List ExtensionRule) → Except Failure ExtensionPolicy
  | [] => .ok policy
  | table :: rest => do (← policy.addAll table).addTables rest

def ofTables (tables : List (List ExtensionRule)) :
    Except Failure ExtensionPolicy :=
  permitAll.addTables tables

/-- Checks rules in order, up to the first that fails. -/
def checkAll (policy : Policy) (c : EncodedCertificate) : List ExtensionRule →
      Except Failure Unit
  | [] => .ok ()
  | rule :: rest => do
    rule.check policy c
    checkAll policy c rest

/-- Checks every rule on a certificate; the first one that fails is reported. -/
def check (rules : ExtensionPolicy) (policy : Policy) (c : EncodedCertificate) :
    Except Failure Unit :=
  checkAll policy c rules.rules

end ExtensionPolicy

end TrustPath
