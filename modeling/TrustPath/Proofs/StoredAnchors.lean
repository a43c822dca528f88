import TrustPath.Proofs.ChainFamily

/-!
The anchors that a store keeps. What a certificate is trusted for is its subject
with its key, and of the certificates supplied that are trusted for one thing
the first is kept, in its place. A repetition is looked for among the anchors
kept so far, which are trusted for all that the certificates before are.
-/

namespace TrustPath

/-- What a certificate is trusted for as an anchor: its subject with its key. -/
def EncodedCertificate.trusted (c : EncodedCertificate) : Name × PublicKey :=
  (c.subject, c.publicKey)

namespace TrustStore

/-- The certificates at the positions before which none stands that is trusted
for the same. -/
def firstOccurrences (cs : List EncodedCertificate) : List EncodedCertificate :=
  (cs.zipIdx.filter fun entry =>
    entry.1.trusted ∉ (cs.take entry.2).map (·.trusted)).map Prod.fst

/-- One more certificate leaves those before it as they are, and is kept itself
unless it repeats one. -/
theorem firstOccurrences_concat (cs : List EncodedCertificate)
    (c : EncodedCertificate) : firstOccurrences (cs ++ [c]) =
      firstOccurrences cs ++ if c.trusted ∈ cs.map (·.trusted) then []
        else [c] := by
  have hearlier : ∀ entry ∈ cs.zipIdx,
      (cs ++ [c]).take entry.2 = cs.take entry.2 := by
    intro entry hentry
    exact List.take_append_of_le_length
      (Nat.le_of_lt (List.snd_lt_of_mem_zipIdx hentry))
  have hsame : cs.zipIdx.filter
        (fun entry => entry.1.trusted ∉ ((cs ++ [c]).take entry.2).map
          (·.trusted)) =
      cs.zipIdx.filter fun entry =>
        entry.1.trusted ∉ (cs.take entry.2).map (·.trusted) := by
    apply List.filter_congr
    intro entry hentry
    rw [hearlier entry hentry]
  rw [firstOccurrences, List.zipIdx_append, List.filter_append, List.map_append,
    hsame, firstOccurrences]
  congr 1
  by_cases hrepeated : c.trusted ∈ cs.map (·.trusted)
  · simp [hrepeated]
  · simp [hrepeated]

/-- What is kept is trusted for all that the certificates supplied are. -/
theorem mem_trusted_firstOccurrences {cs : List EncodedCertificate}
    {t : Name × PublicKey} : t ∈ (firstOccurrences cs).map (·.trusted) ↔
      t ∈ cs.map (·.trusted) := by
  induction cs using List.reverseRecOn with
  | nil => rfl
  | append_singleton cs c ih =>
      rw [firstOccurrences_concat, List.map_append, List.map_append,
        List.mem_append, List.mem_append, ih]
      split
      next hrepeated =>
        constructor
        · rintro (hold | hnone)
          · exact Or.inl hold
          · cases hnone
        · rintro (hold | hnew)
          · exact Or.inl hold
          · rw [List.map_singleton, List.mem_singleton] at hnew
            exact Or.inl (hnew ▸ hrepeated)
      next => rfl

/-- No two that are kept are trusted for the same. -/
theorem nodup_firstOccurrences (cs : List EncodedCertificate) :
    ((firstOccurrences cs).map (·.trusted)).Nodup := by
  induction cs using List.reverseRecOn with
  | nil => exact List.nodup_nil
  | append_singleton cs c ih =>
      rw [firstOccurrences_concat]
      split
      next =>
        rw [List.append_nil]
        exact ih
      next hnew =>
        rw [List.map_append, List.map_singleton, ← List.concat_eq_append]
        exact ih.concat (mt mem_trusted_firstOccurrences.mp hnew)

/-- Those that are kept stay in order. -/
theorem firstOccurrences_sublist (cs : List EncodedCertificate) :
    (firstOccurrences cs).Sublist cs := by
  have hsub := (List.filter_sublist (l := cs.zipIdx)
    (p := fun entry => entry.1.trusted ∉ (cs.take entry.2).map (·.trusted))).map
    Prod.fst
  rwa [List.zipIdx_map_fst] at hsub

theorem firstOccurrences_concat_repeated {cs : List EncodedCertificate}
    {c : EncodedCertificate} (hrepeated : c.trusted ∈ cs.map (·.trusted)) :
    firstOccurrences (cs ++ [c]) = firstOccurrences cs := by
  rw [firstOccurrences_concat, if_pos hrepeated, List.append_nil]

theorem isSame_eq_true_iff (a : TrustAnchor) (c : EncodedCertificate) :
    a.isSame ⟨c⟩ = true ↔ a.certificate.trusted = c.trusted := by
  rw [TrustAnchor.isSame, Bool.and_eq_true, decide_eq_true_iff,
    decide_eq_true_iff, EncodedCertificate.trusted, EncodedCertificate.trusted,
    Prod.mk.injEq]
  exact Iff.rfl

/-- A repetition is found among the anchors kept exactly if there is one among
the certificates. -/
theorem any_isSame_iff (cs : List EncodedCertificate) (c : EncodedCertificate) :
    (((firstOccurrences cs).map TrustAnchor.mk).any fun a => a.isSame ⟨c⟩) =
        true ↔
      c.trusted ∈ cs.map (·.trusted) := by
  rw [← mem_trusted_firstOccurrences, List.any_map, List.any_eq_true,
    List.mem_map]
  simp only [Function.comp_apply, isSame_eq_true_iff]

theorem map_certificate_mk (cs : List EncodedCertificate) :
    (cs.map TrustAnchor.mk).map (·.certificate) = cs := by
  rw [List.map_map]
  exact List.map_id cs

/-- The invariant of the loop: the anchors are those of the certificates taken
in so far. -/
theorem addAll_firstOccurrences (before rest : List EncodedCertificate) :
    (addAll ((firstOccurrences before).map TrustAnchor.mk) rest).value =
      (firstOccurrences (before ++ rest)).map TrustAnchor.mk := by
  induction rest generalizing before with
  | nil => rw [List.append_nil, addAll, Logged.quiet]
  | cons c rest ih =>
      have hsplit : before ++ c :: rest = (before ++ [c]) ++ rest := by simp
      rw [addAll, hsplit, ← ih, firstOccurrences_concat]
      by_cases hrepeated : c.trusted ∈ before.map (·.trusted)
      · rw [if_pos ((any_isSame_iff before c).mpr hrepeated), if_pos hrepeated,
          List.append_nil]
      · rw [if_neg (mt (any_isSame_iff before c).mp hrepeated),
          if_neg hrepeated, List.map_append, List.map_singleton]

theorem value_ofCertificates {certificates : List EncodedCertificate}
    (hsome : certificates ≠ []) : (ofCertificates certificates).value =
      .ok ⟨(firstOccurrences certificates).map TrustAnchor.mk⟩ := by
  cases certificates with
  | nil => exact absurd rfl hsome
  | cons c rest =>
      have hadded := addAll_firstOccurrences [] (c :: rest)
      rw [ofCertificates]
      exact congrArg (fun anchors => Except.ok (TrustStore.mk anchors)) hadded

/-- The store is that of the certificates: it has an anchor for everything that
they are trusted for, once and in order, and finds the anchors with a name. -/
structure IsOf (store : TrustStore) (certificates : List EncodedCertificate) :
    Prop where
  anchors_eq : store.anchors.map (·.certificate) = firstOccurrences certificates
  distinct : (store.anchors.map fun a => (a.subject, a.publicKey)).Nodup
  covers : ∀ c ∈ certificates, ∃ a ∈ store.anchors,
    a.subject = c.subject ∧ a.publicKey = c.publicKey
  ordered : (store.anchors.map (·.certificate)).Sublist certificates
  /-- A certificate that repeats one makes no difference at the end. -/
  repeated : ∀ c, (∃ d ∈ certificates, d.subject = c.subject ∧
    d.publicKey = c.publicKey) → (ofCertificates (certificates ++ [c])).value =
    .ok store
  /-- With the next field: the anchors that match a name, in the order in which
  they are kept. -/
  named_sublist : ∀ name, (store.named name).Sublist store.anchors
  mem_named_iff : ∀ name a, a ∈ store.named name ↔
    a ∈ store.anchors ∧ a.subject.isMatch name = true
  hasIssuerOf_iff : ∀ c, store.hasIssuerOf c = true ↔ store.named c.issuer ≠ []

theorem isOf_firstOccurrences (certificates : List EncodedCertificate) :
    (⟨(firstOccurrences certificates).map TrustAnchor.mk⟩ : TrustStore).IsOf
      certificates where
  anchors_eq := map_certificate_mk _
  distinct := by
    have hdistinct := nodup_firstOccurrences certificates
    rw [List.map_map]
    exact hdistinct
  covers := by
    intro c hc
    obtain ⟨kept, hkept, hsame⟩ := List.mem_map.mp
      (mem_trusted_firstOccurrences.mpr (List.mem_map_of_mem hc))
    rw [EncodedCertificate.trusted, EncodedCertificate.trusted, Prod.mk.injEq]
      at hsame
    exact ⟨⟨kept⟩, List.mem_map_of_mem hkept, hsame⟩
  ordered := by
    rw [map_certificate_mk]
    exact firstOccurrences_sublist certificates
  repeated := by
    rintro c ⟨d, hd, hsubject, hkey⟩
    have hrepeated : c.trusted ∈ certificates.map (·.trusted) :=
      List.mem_map.mpr ⟨d, hd, Prod.ext hsubject hkey⟩
    rw [value_ofCertificates (by simp),
      firstOccurrences_concat_repeated hrepeated]
  named_sublist _ := List.filter_sublist
  mem_named_iff _ _ := List.mem_filter
  hasIssuerOf_iff c := by simp [hasIssuerOf]

/-- Certificates, if there are any, make a store, and it keeps the first
occurrences among them. -/
theorem ofCertificates_keeps_first (certificates : List EncodedCertificate)
    (hsome : certificates ≠ []) :
    ∃ store, (ofCertificates certificates).value = .ok store ∧
      store.IsOf certificates :=
  ⟨_, value_ofCertificates hsome, isOf_firstOccurrences _⟩

open ChainFamily in
/-- The anchor of the chains, an authority, and the anchor once more under
another serial number. -/
theorem root_kept_once :
    ∃ store, (ofCertificates [authorityWith 0 rootName rootName, authority 2 0,
        authorityWith 7 rootName rootName]).value = .ok store ∧
      store.anchors.map (·.certificate) =
        [authorityWith 0 rootName rootName, authority 2 0] ∧
      store.hasIssuerOf (authority 2 1) = true := by
  obtain ⟨store, hstore, hof⟩ := ofCertificates_keeps_first
    [authorityWith 0 rootName rootName, authority 2 0,
      authorityWith 7 rootName rootName] (by simp)
  have hfirsts : firstOccurrences [authorityWith 0 rootName rootName,
      authority 2 0, authorityWith 7 rootName rootName] =
      [authorityWith 0 rootName rootName, authority 2 0] := by
    decide +kernel
  refine ⟨store, hstore, hof.anchors_eq.trans hfirsts,
    (hof.hasIssuerOf_iff _).mpr ?_⟩
  obtain ⟨root, hroot, hsubject, _⟩ :=
    hof.covers (authorityWith 0 rootName rootName) (by simp)
  apply List.ne_nil_of_mem
  rw [hof.mem_named_iff]
  refine ⟨hroot, ?_⟩
  rw [hsubject]
  decide +kernel

end TrustStore

end TrustPath
