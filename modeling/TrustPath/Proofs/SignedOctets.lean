import TrustPath.Proofs.ChainFamily
import TrustPath.Proofs.Envelopes

/-!
The octets whose signature is checked are those that the fields were read from.
A certificate is read twice, once with all its fields and once as an envelope
around a signed part that nobody looks into; both readings find the same three
elements, because an element has one encoding.
-/

namespace TrustPath

open Der

/-- What is kept of a certificate that was read from its encoding: the encoding
as it was given, all fields, signed octets that encode just these fields, and
the contents of the extensions among them. -/
structure EncodedCertificate.ReadFrom (c : EncodedCertificate) (bs : Bytes) :
    Prop where
  encoding : c.encoding = bs
  certificate : Certificate.decode? bs = some c.certificate
  signed : ∃ envelope, SignedEnvelope.decode? bs = some envelope ∧
    envelope.Encloses bs c.certificate ∧ c.signedBytes = envelope.signedBytes
  fields : TbsCertificate.decode? c.signedBytes = some c.certificate.tbs
  contents : ExtensionContents.addAll? []
    (c.certificate.tbs.extensions.getD []) = some c.contents

theorem EncodedCertificate.assemble?_eq_some {bs : Bytes}
    {certificate : Certificate} {c : EncodedCertificate}
    (hmade : assemble? bs certificate = some c) :
    ∃ envelope, SignedEnvelope.decode? bs = some envelope ∧
      c.signedBytes = envelope.signedBytes ∧
      c.encoding = bs ∧ c.certificate = certificate ∧
      ExtensionContents.addAll? [] (certificate.tbs.extensions.getD []) =
        some c.contents := by
  obtain ⟨envelope, henvelope, hmade⟩ := Option.bind_eq_some_iff.mp hmade
  obtain ⟨contents, hcontents, hmade⟩ := Option.bind_eq_some_iff.mp hmade
  cases hmade
  exact ⟨envelope, henvelope, rfl, rfl, rfl, hcontents⟩

theorem EncodedCertificate.readFrom_of_ofBytes? {bs : Bytes}
    {c : EncodedCertificate} (hread : ofBytes? bs = some c) :
    c.ReadFrom bs := by
  obtain ⟨certificate, hcertificate, hmade⟩ := Option.bind_eq_some_iff.mp hread
  obtain ⟨envelope, henvelope, hsigned, hencoding, rfl, hcontents⟩ :=
    assemble?_eq_some hmade
  obtain ⟨other, hother, hencloses⟩ := Certificate.exists_encloses hcertificate
  rw [henvelope] at hother
  cases hother
  refine ⟨hencoding, hcertificate, ⟨envelope, henvelope, hencloses, hsigned⟩,
    ?_, hcontents⟩
  rw [hsigned]
  exact hencloses.fields

/-- Wherever a certificate can be read, its envelope can be read too and
encloses it; what is kept of a certificate read from its encoding is all read
from there, and its signed octets encode the fields that the checks look at; and
the signed octets of a certificate that was not read are the canonical encoding
of its fields. -/
theorem signed_octets_encode_fields :
    (∀ bs c, Certificate.decode? bs = some c →
      ∃ envelope, SignedEnvelope.decode? bs = some envelope ∧
        envelope.Encloses bs c) ∧
    (∀ bs c, EncodedCertificate.ofBytes? bs = some c → c.ReadFrom bs) ∧
    ∀ certificate c, EncodedCertificate.ofCertificate? certificate = some c →
      c.certificate = certificate ∧ c.signedBytes = certificate.tbs.encode := by
  refine ⟨?_, ?_, ?_⟩
  · intro bs c hread
    exact Certificate.exists_encloses hread
  · intro bs c hread
    exact EncodedCertificate.readFrom_of_ofBytes? hread
  · intro certificate c hmade
    obtain ⟨envelope, henvelope, hsigned, _, hcertificate, _⟩ :=
      EncodedCertificate.assemble?_eq_some hmade
    refine ⟨hcertificate, ?_⟩
    rw [hsigned]
    exact SignedEnvelope.signedBytes_of_decode?_encode henvelope

namespace ChainFamily

/-- The octets of a leaf that are not its canonical encoding: an extension says
that it is not critical, which goes without saying, and the unused bits of the
signature are set. -/
def looseLeaf : Bytes :=
  Element.encode (.around .sequence
    [.around .sequence
      [.around (.context 0 true) [⟨.integer, [2]⟩], ⟨.integer, [1]⟩,
        algorithm.toElement, rootName.toElement, validity.toElement,
        (name 0).toElement, key.toElement,
        .around (.context 3 true)
        [.around .sequence (leafExtensions.map fun x =>
          .around .sequence [oidElement x.id, ⟨.boolean, [0]⟩,
            ⟨.octetString, x.value⟩])]],
      algorithm.toElement, ⟨.bitString, [3, 0xff]⟩])

end ChainFamily

open ChainFamily in
/-- A leaf whose signed octets are not what its fields would be written as, and
one that was not read. -/
theorem loose_leaf_signed_octets :
    (∃ c, EncodedCertificate.ofBytes? looseLeaf = some c ∧
      c.ReadFrom looseLeaf ∧ c.signedBytes ≠ c.certificate.tbs.encode ∧
      c.certificate.signature = ⟨3, [0xff]⟩ ∧
      ∃ envelope, SignedEnvelope.decode? looseLeaf = some envelope ∧
        envelope.Encloses looseLeaf c.certificate) ∧
    ∃ c, EncodedCertificate.ofCertificate? (leaf 0).certificate = some c ∧
      c.certificate = (leaf 0).certificate ∧
        c.signedBytes = (leaf 0).certificate.tbs.encode := by
  obtain ⟨henclosed, hread, hmade⟩ := signed_octets_encode_fields
  have hloose : ∃ c, EncodedCertificate.ofBytes? looseLeaf = some c ∧
      (c.signedBytes ≠ c.certificate.tbs.encode && c.certificate.signature =
        ⟨3, [0xff]⟩) = true :=
    (Option.any_eq_true _ _).mp (by decide +kernel)
  have hvalue : (EncodedCertificate.ofCertificate?
      (leaf 0).certificate).isSome = true := by
    decide +kernel
  refine ⟨?_, ?_⟩
  · obtain ⟨c, hc, hdiffers⟩ := hloose
    rw [Bool.and_eq_true, decide_eq_true_iff, decide_eq_true_iff] at hdiffers
    have hfrom := hread looseLeaf c hc
    exact ⟨c, hc, hfrom, hdiffers.1, hdiffers.2,
      henclosed looseLeaf _ hfrom.certificate⟩
  · obtain ⟨c, hc⟩ := Option.isSome_iff_exists.mp hvalue
    exact ⟨c, hc, hmade _ c hc⟩

end TrustPath
