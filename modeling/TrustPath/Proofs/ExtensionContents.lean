import TrustPath.Proofs.ExtensionRules
import TrustPath.Proofs.SignedOctets

/-!
What is kept of a certificate's extensions, and the extensions as they stand
there. The contents under an identifier are those of the last extension that has
it, so that wherever the rules find one extension, the contents they look at are
its own.
-/

namespace TrustPath

namespace ExtensionContent

/-- The identifier of the extension that contents belong to. -/
def id : ExtensionContent → Oid
  | basicConstraints _ => .basicConstraints
  | keyUsage _ => .keyUsage
  | extKeyUsage _ => .extKeyUsage
  | subjectAltName _ => .subjectAltName
  | nameConstraints _ => .nameConstraints
  | authorityKeyIdentifier _ => .authorityKeyIdentifier
  | subjectKeyIdentifier _ => .subjectKeyIdentifier
  | policyConstraints _ => .policyConstraints
  | authorityInfoAccess _ => .authorityInfoAccess

theorem id_mem_recognized (content : ExtensionContent) :
    content.id ∈ recognized := by
  cases content <;> simp [id, recognized]

/-- A value is read as the type that belongs to its identifier. -/
theorem id_eq_of_decode? {id : Oid} {value : Bytes} {content : ExtensionContent}
    (hread : decode? id value = some content) : content.id = id := by
  obtain ⟨e, _, hfields⟩ := Option.bind_eq_some_iff.mp hread
  simp only [ofElement?, Option.bind_eq_bind, Option.pure_def] at hfields
  -- One case for each identifier, and in each of them one type.
  grind [ExtensionContent.id, Option.map_eq_some_iff, Option.bind_eq_some_iff]

theorem decode?_eq_none_of_not_mem {id : Oid} (hother : id ∉ recognized)
    (value : Bytes) : decode? id value = none := by
  rw [Option.eq_none_iff_forall_ne_some]
  intro content hread
  rw [← id_eq_of_decode? hread] at hother
  exact hother content.id_mem_recognized

end ExtensionContent

namespace ExtensionContents

open ExtensionContent

variable {contents added : ExtensionContents} {id : Oid} {xs : List Extension}
  {x : Extension}

theorem find?_insert (contents : ExtensionContents) (id other : Oid)
    (content : ExtensionContent) : (contents.insert id content).find? other =
      if other = id then some content else contents.find? other := by
  rw [find?, find?, insert, List.find?_append]
  split
  next hsame =>
    subst hsame
    have hremoved : (contents.filter fun entry => entry.1 ≠ other).find?
        (fun entry => entry.1 = other) = none := by simp [List.find?_eq_none]
    rw [hremoved]
    simp
  next hother =>
    have hkept (entry : Oid × ExtensionContent) :
        entry.1 ≠ id ∧ entry.1 = other ↔ entry.1 = other :=
      and_iff_right_of_imp fun hentry => hentry ▸ hother
    simp [List.find?_filter, hkept, Ne.symm hother]

theorem addAll?_append (contents : ExtensionContents) (xs ys : List Extension) :
    addAll? contents (xs ++ ys) = (addAll? contents xs).bind fun added =>
      addAll? added ys := by
  induction xs generalizing contents with
  | nil => rfl
  | cons x rest ih =>
      rw [List.cons_append, addAll?, addAll?]
      split
      · split
        · rfl
        · exact ih _
      · exact ih _

/-- What one more extension adds. -/
theorem addAll?_singleton_eq_some_iff :
    addAll? contents [x] = some added ↔
      (∃ content, decode? x.id x.value = some content ∧
        added = contents.insert x.id content) ∨
        x.id ∉ recognized ∧ added = contents := by
  by_cases hrecognized : x.id ∈ recognized
  · cases hread : decode? x.id x.value <;>
        simp [addAll?, hrecognized, hread, eq_comm]
  · simp [addAll?, hrecognized, decode?_eq_none_of_not_mem hrecognized, eq_comm]

/-- Reading fails if a single recognized extension cannot be read. -/
theorem addAll?_eq_none_iff :
    addAll? contents xs = none ↔
      ∃ x ∈ xs, x.id ∈ recognized ∧ decode? x.id x.value = none := by
  induction xs generalizing contents with
  | nil => simp [addAll?]
  | cons x rest ih =>
      rw [addAll?, List.exists_mem_cons_iff]
      by_cases hrecognized : x.id ∈ recognized
      · cases hread : decode? x.id x.value with
        | none => simp [hrecognized]
        | some content => simp [hrecognized, ih]
      · simp [hrecognized, ih]

/-- What is kept under an identifier is the contents of the last extension that
has it. -/
theorem find?_of_addAll? (hread : addAll? [] xs = some contents) (id : Oid) :
    contents.find? id =
      (xs.filter fun x => x.id = id).getLast?.bind fun x =>
        decode? id x.value := by
  -- From the end of the list, since its last member with the identifier
  -- decides.
  induction xs using List.reverseRecOn generalizing contents with
  | nil =>
      cases hread
      rfl
  | append_singleton xs x ih =>
      rw [addAll?_append] at hread
      obtain ⟨before, hbefore, hlast⟩ := Option.bind_eq_some_iff.mp hread
      rw [List.filter_append]
      by_cases hid : x.id = id
      · subst hid
        have hsingle : [x].filter (fun y => y.id = x.id) = [x] := by simp
        rw [hsingle, List.getLast?_concat, Option.bind_some]
        rcases addAll?_singleton_eq_some_iff.mp hlast
            with ⟨content, hcontent, rfl⟩ | ⟨hother, rfl⟩
        · rw [find?_insert, if_pos rfl, hcontent]
        · rw [ih hbefore]
          simp [decode?_eq_none_of_not_mem hother]
      · have hnone : [x].filter (fun y => y.id = id) = [] := by simp [hid]
        rw [hnone, List.append_nil, ← ih hbefore]
        rcases addAll?_singleton_eq_some_iff.mp hlast
            with ⟨content, _, rfl⟩ | ⟨_, rfl⟩
        · rw [find?_insert, if_neg (Ne.symm hid)]
        · rfl

end ExtensionContents

namespace EncodedCertificate

open ExtensionContent

variable {c : EncodedCertificate} {id : Oid} {x : Extension}
  {content : ExtensionContent}

/-- The certificate was read from its encoding, or put under the canonical
one. -/
def IsMade (c : EncodedCertificate) : Prop :=
  (∃ bs, ofBytes? bs = some c) ∨ ∃ certificate,
    ofCertificate? certificate = some c

namespace IsMade

theorem addAll? (hmade : c.IsMade) :
    ExtensionContents.addAll? [] (c.certificate.tbs.extensions.getD []) =
      some c.contents := by
  rcases hmade with ⟨bs, hread⟩ | ⟨certificate, hread⟩
  · exact (readFrom_of_ofBytes? hread).contents
  · obtain ⟨_, _, _, _, rfl, hcontents⟩ := assemble?_eq_some hread
    exact hcontents

theorem content?_eq (hmade : c.IsMade) (id : Oid) :
    c.content? id = (c.extensionsWith id).getLast?.bind fun x =>
      decode? id x.value :=
  ExtensionContents.find?_of_addAll? hmade.addAll? id

/-- A certificate is not made with a recognized extension that cannot be
read. -/
theorem exists_decode? (hmade : c.IsMade) (hid : id ∈ recognized)
    (hx : x ∈ c.extensionsWith id) :
    ∃ content, decode? id x.value = some content := by
  obtain ⟨hstands, hhas⟩ := List.mem_filter.mp hx
  rw [decide_eq_true_iff] at hhas
  subst hhas
  rw [← Option.ne_none_iff_exists']
  intro hunreadable
  have hfails : ExtensionContents.addAll? []
      (c.certificate.tbs.extensions.getD []) = none :=
    ExtensionContents.addAll?_eq_none_iff.mpr ⟨x, hstands, hid, hunreadable⟩
  rw [hmade.addAll?] at hfails
  cases hfails

theorem exists_content? (hmade : c.IsMade) (hid : id ∈ recognized)
    (hlast : (c.extensionsWith id).getLast? = some x) :
    ∃ content, decode? id x.value = some content ∧
      c.content? id = some content := by
  obtain ⟨content, hcontent⟩ :=
    hmade.exists_decode? hid (List.mem_of_getLast? hlast)
  refine ⟨content, hcontent, ?_⟩
  rw [hmade.content?_eq, hlast, Option.bind_some, hcontent]

theorem content?_eq_none (hmade : c.IsMade) (hnone : c.extensionsWith id = []) :
    c.content? id = none := by
  rw [hmade.content?_eq, hnone, List.getLast?_nil, Option.bind_none]

theorem isSome_content?_iff (hmade : c.IsMade) (hid : id ∈ recognized) :
    (c.content? id).isSome = true ↔ c.extensionsWith id ≠ [] := by
  cases hlast : (c.extensionsWith id).getLast? with
  | none =>
      rw [List.getLast?_eq_none_iff] at hlast
      simp [hlast, hmade.content?_eq_none hlast]
  | some x =>
      obtain ⟨content, _, hcontent⟩ := hmade.exists_content? hid hlast
      have hne : c.extensionsWith id ≠ [] := by
        rintro hnil
        rw [hnil] at hlast
        cases hlast
      simp [hcontent, hne]

theorem content?_of_not_mem (hmade : c.IsMade) (hother : id ∉ recognized) :
    c.content? id = none := by
  rw [hmade.content?_eq]
  simp [decode?_eq_none_of_not_mem hother]

/-- What is kept under an identifier has the type that belongs to it. -/
theorem id_eq (hmade : c.IsMade) (hkept : c.content? id = some content) :
    content.id = id := by
  rw [hmade.content?_eq] at hkept
  obtain ⟨x, _, hread⟩ := Option.bind_eq_some_iff.mp hkept
  exact id_eq_of_decode? hread

/-- Where one extension has an identifier, its own contents are kept. -/
theorem content?_eq_decode? (hmade : c.IsMade)
    (hone : c.extensionsWith id = [x]) :
    c.content? id = decode? id x.value := by
  rw [hmade.content?_eq, hone, List.getLast?_singleton, Option.bind_some]

theorem map_basicConstraints? (hmade : c.IsMade) :
    c.basicConstraints?.map .basicConstraints =
      c.content? .basicConstraints := by
  rw [basicConstraints?]
  cases hkept : c.content? .basicConstraints with
  | none => rfl
  | some content =>
      have hid := hmade.id_eq hkept
      cases content with
      | basicConstraints => rfl
      | _ => exact absurd hid (by simp +decide [ExtensionContent.id])

theorem map_keyUsage? (hmade : c.IsMade) :
    c.keyUsage?.map .keyUsage = c.content? .keyUsage := by
  rw [keyUsage?]
  cases hkept : c.content? .keyUsage with
  | none => rfl
  | some content =>
      have hid := hmade.id_eq hkept
      cases content with
      | keyUsage => rfl
      | _ => exact absurd hid (by simp +decide [ExtensionContent.id])

theorem map_extKeyUsage? (hmade : c.IsMade) :
    c.extKeyUsage?.map .extKeyUsage = c.content? .extKeyUsage := by
  rw [extKeyUsage?]
  cases hkept : c.content? .extKeyUsage with
  | none => rfl
  | some content =>
      have hid := hmade.id_eq hkept
      cases content with
      | extKeyUsage => rfl
      | _ => exact absurd hid (by simp +decide [ExtensionContent.id])

theorem map_subjectAltName? (hmade : c.IsMade) :
    c.subjectAltName?.map .subjectAltName = c.content? .subjectAltName := by
  rw [subjectAltName?]
  cases hkept : c.content? .subjectAltName with
  | none => rfl
  | some content =>
      have hid := hmade.id_eq hkept
      cases content with
      | subjectAltName => rfl
      | _ => exact absurd hid (by simp +decide [ExtensionContent.id])

theorem map_nameConstraints? (hmade : c.IsMade) :
    c.nameConstraints?.map .nameConstraints = c.content? .nameConstraints := by
  rw [nameConstraints?]
  cases hkept : c.content? .nameConstraints with
  | none => rfl
  | some content =>
      have hid := hmade.id_eq hkept
      cases content with
      | nameConstraints => rfl
      | _ => exact absurd hid (by simp +decide [ExtensionContent.id])

end IsMade

/-- What is kept of a certificate's extensions agrees with the extensions as
they stand there. -/
structure Mirrors (c : EncodedCertificate) : Prop where
  /-- Something is kept under a recognized identifier exactly if an extension
  has it. -/
  present : ∀ id ∈ recognized, (c.content? id).isSome = true ↔
    c.extensionsWith id ≠ []
  /-- It is what the value of the last such extension is read as, of the
  identifier's type. -/
  last : ∀ id ∈ recognized, ∀ x, (c.extensionsWith id).getLast? = some x →
    ∃ content, decode? id x.value = some content ∧ content.id = id ∧
    c.content? id = some content
  /-- Where the extension is found, its own contents are kept. -/
  found : ∀ id ∈ recognized, ∀ x, c.findExtension id = .ok (some x) →
    ∃ content, decode? id x.value = some content ∧ c.content? id = some content
  missing : ∀ id, c.findExtension id = .ok none → c.content? id = none
  unrecognized : ∀ id ∉ recognized, c.content? id = none
  basicConstraints : c.basicConstraints?.map .basicConstraints =
    c.content? .basicConstraints
  keyUsage : c.keyUsage?.map .keyUsage = c.content? .keyUsage
  extKeyUsage : c.extKeyUsage?.map .extKeyUsage = c.content? .extKeyUsage
  subjectAltName : c.subjectAltName?.map .subjectAltName =
    c.content? .subjectAltName
  nameConstraints : c.nameConstraints?.map .nameConstraints =
    c.content? .nameConstraints

theorem IsMade.mirrors (hmade : c.IsMade) : c.Mirrors where
  present _ hid := hmade.isSome_content?_iff hid
  last _ hid _ hlast := by
    obtain ⟨content, hread, hkept⟩ := hmade.exists_content? hid hlast
    exact ⟨content, hread, hmade.id_eq hkept, hkept⟩
  found _ hid _ hfound := by
    refine hmade.exists_content? hid ?_
    rw [findExtension_eq_ok_iff.mp hfound]
    rfl
  missing _ hfound := hmade.content?_eq_none (findExtension_eq_ok_iff.mp hfound)
  unrecognized _ hother := hmade.content?_of_not_mem hother
  basicConstraints := hmade.map_basicConstraints?
  keyUsage := hmade.map_keyUsage?
  extKeyUsage := hmade.map_extKeyUsage?
  subjectAltName := hmade.map_subjectAltName?
  nameConstraints := hmade.map_nameConstraints?

/-- The encoding of a certificate is accepted exactly if all recognized
extensions can be read, those included that another one with the same identifier
follows. -/
theorem ofBytes?_eq_none_iff {bs : Bytes} {certificate : Certificate}
    (hread : Certificate.decode? bs = some certificate) :
    ofBytes? bs = none ↔
      ∃ x ∈ certificate.tbs.extensions.getD [],
        x.id ∈ recognized ∧ decode? x.id x.value = none := by
  obtain ⟨envelope, henvelope, _⟩ := Certificate.exists_encloses hread
  have hmade : ofBytes? bs =
      (ExtensionContents.addAll? [] (certificate.tbs.extensions.getD [])).map
        fun contents => ⟨bs, certificate, envelope.signedBytes, contents⟩ := by
    simp [ofBytes?, assemble?, hread, henvelope, Option.map_eq_bind]
  rw [hmade, Option.map_eq_none_iff, ExtensionContents.addAll?_eq_none_iff]

end EncodedCertificate

open ExtensionContent in
/-- However a certificate was made, what is kept of its extensions agrees with
the extensions themselves; and the encoding of a certificate is refused exactly
if a recognized extension in it cannot be read. -/
theorem kept_contents_mirror_extensions :
    (∀ c : EncodedCertificate, c.IsMade → c.Mirrors) ∧
      ∀ bs certificate, Certificate.decode? bs = some certificate →
        (EncodedCertificate.ofBytes? bs = none ↔
          ∃ x ∈ certificate.tbs.extensions.getD [],
            x.id ∈ recognized ∧ decode? x.id x.value = none) := by
  refine ⟨?_, ?_⟩
  · intro c hmade
    exact hmade.mirrors
  · intro bs certificate hread
    exact EncodedCertificate.ofBytes?_eq_none_iff hread

namespace ChainFamily

/-- A leaf with two keyUsage extensions: the first allows signatures on
certificates, the last has the value that is given. -/
def doublyUsed (lastValue : Bytes) : Certificate :=
  certificate 0 ⟨[part 3 [0x4c]]⟩ rootName (some
    (⟨.keyUsage, true, [0x03, 0x02, 0x02, 0x04]⟩ :: ⟨.keyUsage, false,
      lastValue⟩ :: leafExtensions))

end ChainFamily

open ChainFamily in
/-- The last of two extensions is kept, and where it cannot be read, the
certificate is refused. -/
theorem last_keyUsage_kept :
    (∃ c, EncodedCertificate.ofBytes?
      (doublyUsed [0x03, 0x02, 0x07, 0x80]).encode = some c ∧
      c.Mirrors ∧ c.keyUsage? = some [.digitalSignature] ∧
      (c.findExtension .keyUsage).toOption = none ∧
      c.subjectAltName? = some alternativeNames) ∧
    EncodedCertificate.ofBytes? (doublyUsed [0x04]).encode = none := by
  obtain ⟨hmirrors, hrefused⟩ := kept_contents_mirror_extensions
  have hkept : ∃ c,
      EncodedCertificate.ofBytes? (doublyUsed [0x03, 0x02, 0x07, 0x80]).encode =
      some c ∧ (c.keyUsage? = some [.digitalSignature] &&
        (c.findExtension .keyUsage).toOption = none &&
        c.subjectAltName? = some alternativeNames) = true :=
    (Option.any_eq_true _ _).mp (by decide +kernel)
  have hread : Certificate.decode? (doublyUsed [0x04]).encode =
      some (doublyUsed [0x04]) := by
    decide +kernel
  refine ⟨?_, ?_⟩
  · obtain ⟨c, hc, hviews⟩ := hkept
    simp only [Bool.and_eq_true, decide_eq_true_iff] at hviews
    exact ⟨c, hc, hmirrors c (.inl ⟨_, hc⟩), hviews.1.1, hviews.1.2, hviews.2⟩
  · refine (hrefused _ _ hread).mpr ⟨⟨.keyUsage, false, [0x04]⟩, ?_, ?_, ?_⟩
    · simp [doublyUsed, certificate]
    · decide
    · rfl

end TrustPath
