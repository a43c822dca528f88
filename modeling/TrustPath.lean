import TrustPath.Bytes
import TrustPath.Calendar
import TrustPath.Certificate
import TrustPath.Certificate.Encoded
import TrustPath.Certificate.Validity
import TrustPath.Der.Element
import TrustPath.Der.Value
import TrustPath.Digest
import TrustPath.Extension.Content
import TrustPath.ExtensionPolicy
import TrustPath.ExtensionPolicy.Validators
import TrustPath.ExtensionPolicy.WebPki
import TrustPath.Failure
import TrustPath.GeneralName
import TrustPath.Json
import TrustPath.Json.Fault
import TrustPath.Json.Quoted
import TrustPath.Json.Token
import TrustPath.Key
import TrustPath.Log
import TrustPath.Name
import TrustPath.Name.Matching
import TrustPath.Name.Text
import TrustPath.NameSubtrees
import TrustPath.Oid
import TrustPath.Oid.Registry
import TrustPath.Oid.ShortName
import TrustPath.Path
import TrustPath.PathSearch
import TrustPath.Policy
import TrustPath.Proofs.AddressRanges
import TrustPath.Proofs.Ascent
import TrustPath.Proofs.AttributePairings
import TrustPath.Proofs.BoundedWork
import TrustPath.Proofs.Budget
import TrustPath.Proofs.CanonicalNames
import TrustPath.Proofs.ChainFamily
import TrustPath.Proofs.Checks
import TrustPath.Proofs.Completeness
import TrustPath.Proofs.Completion
import TrustPath.Proofs.DayCount
import TrustPath.Proofs.DeepestFailure
import TrustPath.Proofs.DepthLimits
import TrustPath.Proofs.DerElements
import TrustPath.Proofs.DomainTree
import TrustPath.Proofs.EncodingOrder
import TrustPath.Proofs.Envelopes
import TrustPath.Proofs.ExcludedNames
import TrustPath.Proofs.ExtensionContents
import TrustPath.Proofs.ExtensionRules
import TrustPath.Proofs.Findings
import TrustPath.Proofs.GovernedOnce
import TrustPath.Proofs.HostNames
import TrustPath.Proofs.IrrelevantIntermediates
import TrustPath.Proofs.JsonTokens
import TrustPath.Proofs.JsonValues
import TrustPath.Proofs.LargerBudget
import TrustPath.Proofs.ModulusSize
import TrustPath.Proofs.Monotonicity
import TrustPath.Proofs.NameMatching
import TrustPath.Proofs.NumberedPaths
import TrustPath.Proofs.NumberedSearch
import TrustPath.Proofs.PermittedAlgorithms
import TrustPath.Proofs.PlainText
import TrustPath.Proofs.Pool
import TrustPath.Proofs.QuotedTexts
import TrustPath.Proofs.Refusals
import TrustPath.Proofs.Rejections
import TrustPath.Proofs.Reverification
import TrustPath.Proofs.RuleVerdicts
import TrustPath.Proofs.SearchInvariant
import TrustPath.Proofs.SearchOrder
import TrustPath.Proofs.SearchStep
import TrustPath.Proofs.SearchTermination
import TrustPath.Proofs.ServersAndClients
import TrustPath.Proofs.SettingsRoundTrip
import TrustPath.Proofs.SignatureVerdicts
import TrustPath.Proofs.SignedOctets
import TrustPath.Proofs.Soundness
import TrustPath.Proofs.SpelledValues
import TrustPath.Proofs.StoredAnchors
import TrustPath.Proofs.StraightRun
import TrustPath.Proofs.SubjectMatching
import TrustPath.Proofs.SupportedAlgorithms
import TrustPath.Proofs.TighterSubtrees
import TrustPath.Proofs.ValidPath
import TrustPath.Proofs.ValidityPeriod
import TrustPath.Proofs.WebProfiles
import TrustPath.Proofs.WildcardNames
import TrustPath.Proofs.Words
import TrustPath.Settings
import TrustPath.Signature.Check
import TrustPath.Signature.Ecdsa
import TrustPath.Signature.Residue
import TrustPath.Signature.Rsa
import TrustPath.Subject
import TrustPath.Subject.DnsName
import TrustPath.Subject.IpAddress
import TrustPath.Text.Ascii
import TrustPath.Text.Folding
import TrustPath.Text.Quoted
import TrustPath.Text.Unicode.Case
import TrustPath.Text.Unicode.Visible
import TrustPath.TrustStore
import TrustPath.Verifier
