import TrustPath.Certificate.Encoded
import TrustPath.Proofs.DerElements

/-!
Envelopes and certificates. What can be read with all its fields can be read as
an envelope, which has the same three elements inside; and the signed part of a
canonical encoding is the canonical encoding of the fields.
-/

namespace TrustPath

open Der

theorem Certificate.ofElement?_eq_some_iff {e : Element} {c : Certificate} :
    ofElement? e = some c ↔
      ∃ tbs algorithm signature,
        e.sequence? = some [tbs, algorithm, signature] ∧
        TbsCertificate.ofElement? tbs = some c.tbs ∧
        AlgorithmIdentifier.ofElement? algorithm = some c.signatureAlgorithm ∧
        BitString.ofElement? signature = some c.signature := by
  rw [ofElement?]
  constructor
  · intro hread
    obtain ⟨es, hes, hfields⟩ := Option.bind_eq_some_iff.mp hread
    split at hfields
    next tbs algorithm signature =>
      obtain ⟨fields, htbs, hfields⟩ := Option.bind_eq_some_iff.mp hfields
      obtain ⟨outer, halgorithm, hfields⟩ := Option.bind_eq_some_iff.mp hfields
      obtain ⟨bits, hsignature, hfields⟩ := Option.bind_eq_some_iff.mp hfields
      cases hfields
      exact ⟨tbs, algorithm, signature, hes, htbs, halgorithm, hsignature⟩
    next => cases hfields
  · rintro ⟨tbs, algorithm, signature, hes, htbs, halgorithm, hsignature⟩
    simp [hes, htbs, halgorithm, hsignature]

theorem SignedEnvelope.ofElement?_eq_some_iff {e : Element}
    {envelope : SignedEnvelope} : ofElement? e = some envelope ↔
      ∃ algorithm signature,
        e.sequence? = some [envelope.signed, algorithm, signature] ∧
        AlgorithmIdentifier.ofElement? algorithm = some envelope.algorithm ∧
        BitString.ofElement? signature = some envelope.signature := by
  rw [ofElement?]
  constructor
  · intro hread
    obtain ⟨es, hes, hfields⟩ := Option.bind_eq_some_iff.mp hread
    split at hfields
    next signed algorithm signature =>
      obtain ⟨outer, halgorithm, hfields⟩ := Option.bind_eq_some_iff.mp hfields
      obtain ⟨bits, hsignature, hfields⟩ := Option.bind_eq_some_iff.mp hfields
      cases hfields
      exact ⟨algorithm, signature, hes, halgorithm, hsignature⟩
    next => cases hfields
  · rintro ⟨algorithm, signature, hes, halgorithm, hsignature⟩
    simp [hes, halgorithm, hsignature]

/-- The envelope is that of the certificate which the octets encode: it has the
same algorithm and signature, and its signed part is the first element inside
the outer sequence, octet by octet, and encodes the certificate's fields. -/
structure SignedEnvelope.Encloses (envelope : SignedEnvelope) (bs : Bytes)
    (c : Certificate) : Prop where
  algorithm : envelope.algorithm = c.signatureAlgorithm
  signature : envelope.signature = c.signature
  first : ∃ rest, bs = Element.encode
    ⟨.sequence, envelope.signedBytes ++ rest⟩ ∧
    Element.read? (envelope.signedBytes ++ rest) = some (envelope.signed, rest)
  fields : TbsCertificate.decode? envelope.signedBytes = some c.tbs

/-- Where a certificate can be read with all its fields, it can be read as an
envelope. -/
theorem Certificate.exists_encloses {bs : Bytes} {c : Certificate}
    (hread : decode? bs = some c) : ∃ envelope,
      SignedEnvelope.decode? bs = some envelope ∧ envelope.Encloses bs c := by
  obtain ⟨e, he, hfields⟩ := Option.bind_eq_some_iff.mp hread
  obtain ⟨tbs, algorithm, signature, hes, htbs, halgorithm, hsignature⟩ :=
    ofElement?_eq_some_iff.mp hfields
  obtain ⟨rfl, hfits⟩ := Element.sequence?_eq_some_iff.mp hes
  obtain ⟨rfl, _, hlength⟩ := element?_eq_some_iff.mp he
  have hinside : Element.around .sequence [tbs, algorithm, signature] =
      ⟨.sequence, tbs.encode ++ encodeAll [algorithm, signature]⟩ := by
    rw [Element.around, encodeAll_cons]
  refine ⟨⟨tbs, c.signatureAlgorithm, c.signature⟩, ?_, rfl, rfl, ?_, ?_⟩
  · refine Option.bind_eq_some_iff.mpr ⟨_, he, ?_⟩
    exact SignedEnvelope.ofElement?_eq_some_iff.mpr ⟨algorithm, signature, hes,
      halgorithm, hsignature⟩
  · exact ⟨encodeAll [algorithm, signature], congrArg Element.encode hinside,
      Element.read?_encode (hfits tbs (by simp)) _⟩
  · have hshorter : tbs.encode.length <
        (Element.around .sequence [tbs, algorithm, signature]).encode.length :=
      Element.length_encode_lt_around List.mem_cons_self
    refine Option.bind_eq_some_iff.mpr ⟨tbs, ?_, htbs⟩
    exact element?_eq_some_iff.mpr ⟨rfl, (hfits tbs (by simp)).known,
      Nat.le_of_lt (Nat.lt_of_lt_of_le hshorter hlength)⟩

/-- An element that is read from the encoding of one with a known tag is that
one. -/
theorem Der.eq_of_element?_encode {e other : Element}
    (hread : element? other.encode = some e)
    (hknown : other.tag.isKnown = true) : e = other := by
  obtain ⟨_, _, hlength⟩ := element?_eq_some_iff.mp hread
  rw [element?_eq_some_iff.mpr ⟨rfl, hknown, hlength⟩] at hread
  exact (Option.some.inj hread).symm

/-- Where the canonical encoding of a certificate can be read as an envelope,
its signed part is the canonical encoding of the fields. -/
theorem SignedEnvelope.signedBytes_of_decode?_encode {c : Certificate}
    {envelope : SignedEnvelope} (hread : decode? c.encode = some envelope) :
    envelope.signedBytes = c.tbs.encode := by
  obtain ⟨e, he, hfields⟩ := Option.bind_eq_some_iff.mp hread
  obtain ⟨algorithm, signature, hes, _, _⟩ := ofElement?_eq_some_iff.mp hfields
  obtain ⟨_, _, hlength⟩ := element?_eq_some_iff.mp he
  have hwhole : e = c.toElement := eq_of_element?_encode he rfl
  have hwritten : c.toElement.sequence? =
      some [c.tbs.toElement, c.signatureAlgorithm.toElement,
        c.signature.toElement] := by
    refine Element.sequence?_eq_some_iff.mpr ⟨rfl, ?_⟩
    intro x hx
    have hinside : x.encode.length < c.encode.length :=
      Element.length_encode_lt_around hx
    have hcontents := x.length_contents_lt_encode
    refine ⟨?_, by omega⟩
    simp only [List.mem_cons, List.not_mem_nil, or_false] at hx
    rcases hx with rfl | rfl | rfl <;> rfl
  rw [hwhole, hwritten, Option.some.injEq, List.cons.injEq] at hes
  rw [signedBytes, ← hes.1]
  rfl

/-- What its canonical encoding is read as: a certificate with the contents of
its extensions, where these can be read. -/
theorem EncodedCertificate.ofBytes?_encode {c : Certificate}
    {contents : ExtensionContents}
    (hread : Certificate.decode? c.encode = some c)
    (hcontents : ExtensionContents.addAll? [] (c.tbs.extensions.getD []) =
      some contents) :
    ofBytes? c.encode = some ⟨c.encode, c, c.tbs.encode, contents⟩ := by
  obtain ⟨envelope, henvelope, _⟩ := Certificate.exists_encloses hread
  have hsigned := SignedEnvelope.signedBytes_of_decode?_encode henvelope
  simp [ofBytes?, assemble?, hread, henvelope, hcontents, hsigned]

end TrustPath
