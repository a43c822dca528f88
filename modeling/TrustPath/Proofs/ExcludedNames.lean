import TrustPath.Proofs.HostNames
import TrustPath.Proofs.Soundness

/-!
A subject that a server was verified for is in no excluded subtree of its path,
also where the leaf names it only through a wildcard.
-/

namespace TrustPath

/-- Whether a subtree contains a subject. Host names are not in subtrees of
addresses, nor the other way round. -/
def Subject.isWithin (subject : Subject) (base : GeneralName) : Bool :=
  match subject, base with
  | dns name, .dns constraint => name.isWithin constraint.toList
  | ip address, .ip range => address.isWithin range
  | _, _ => false

/-- Some excluded subtree contains the subject. -/
def NameConstraints.Excludes (constraints : NameConstraints)
    (subject : Subject) : Prop :=
  ∃ subtree ∈ constraints.excluded.getD [], subject.isWithin subtree.base = true

namespace NameSubtrees

theorem mem_dnsBases {subtrees : List Subtree} {subtree : Subtree}
    {constraint : String} (hmem : subtree ∈ subtrees)
    (hbase : subtree.base = .dns constraint) :
    constraint ∈ dnsBases subtrees := by
  rw [dnsBases, List.mem_filterMap]
  exact ⟨subtree, hmem, by rw [hbase]⟩

theorem mem_ipBases {subtrees : List Subtree} {subtree : Subtree}
    {range : Bytes} (hmem : subtree ∈ subtrees)
    (hbase : subtree.base = .ip range) : range ∈ ipBases subtrees := by
  rw [ipBases, List.mem_filterMap]
  exact ⟨subtree, hmem, by rw [hbase]⟩

/-- An entry that names a host and is permitted keeps the host out of the
excluded subtrees. -/
theorem not_isWithin_of_permits_dns {subtrees : NameSubtrees} {name : DnsName}
    {entry : GeneralName} (hnamed : (Subject.dns name).isNamedBy entry = true)
    (hpermits : subtrees.permits entry = true) :
    ∀ c ∈ subtrees.excludedDns, name.isWithin c.toList = false := by
  cases entry with
  | dns text =>
      rw [Subject.isNamedBy] at hnamed
      rw [permits] at hpermits
      cases hpattern : DnsPattern.ofText? text with
      | none => simp [hpattern] at hnamed
      | some pattern =>
          rw [hpattern] at hnamed hpermits
          exact not_isWithin_of_permitsPattern hpermits hnamed
  | _ => cases hnamed

/-- An entry with the octets of an address, likewise. -/
theorem not_isWithin_of_permits_ip {subtrees : NameSubtrees}
    {address : IpAddress} {entry : GeneralName}
    (hnamed : (Subject.ip address).isNamedBy entry = true)
    (hpermits : subtrees.permits entry = true) :
    ∀ range ∈ subtrees.excludedIp, address.isWithin range = false := by
  cases entry with
  | ip octets =>
      have hoctets : address.octets = octets := of_decide_eq_true hnamed
      have haddress : IpAddress.ofOctets? octets = some address := by
        rw [← hoctets, IpAddress.ofOctets?, dif_pos address.length_octets]
      rw [permits, haddress] at hpermits
      exact not_touched_of_isPermitted hpermits
  | _ => cases hnamed

/-- Constraints that permit an entry do not exclude whom it names. -/
theorem not_excludes_of_permits {constraints : NameConstraints}
    {subject : Subject} {entry : GeneralName}
    (hnamed : subject.isNamedBy entry = true)
    (hpermits : (ofConstraints constraints).permits entry = true) :
    ¬ constraints.Excludes subject := by
  rintro ⟨subtree, hmem, hwithin⟩
  cases subject with
  | dns name =>
      cases hbase : subtree.base with
      | dns constraint =>
          have houtside := not_isWithin_of_permits_dns hnamed hpermits
              constraint
            (mem_dnsBases hmem hbase)
          rw [hbase, Subject.isWithin, houtside] at hwithin
          cases hwithin
      | _ =>
          rw [hbase] at hwithin
          cases hwithin
  | ip address =>
      cases hbase : subtree.base with
      | ip range =>
          have houtside := not_isWithin_of_permits_ip hnamed hpermits range
            (mem_ipBases hmem hbase)
          rw [hbase, Subject.isWithin, houtside] at hwithin
          cases hwithin
      | _ =>
          rw [hbase] at hwithin
          cases hwithin

end NameSubtrees

/-- A verifier of servers checks that the leaf names its subject. -/
theorem VerifierOptions.policy_subject_of_server {options : VerifierOptions}
    {now : DateTime} {subject : Subject} {server : ServerVerifier}
    (hserver : (options.server now subject).value = .ok server) :
    server.inner.policy.subject = some subject := by
  rw [VerifierOptions.server, assemble] at hserver
  cases hstore : options.store with
  | none =>
      rw [hstore] at hserver
      cases hserver
  | some store =>
      rw [hstore] at hserver
      cases hserver
      rfl

/-- No name constraints on a justified path exclude the subject of the
policy. -/
theorem PathVerifier.Justified.not_excludes {verifier : PathVerifier}
    {leaf : EncodedCertificate} {intermediates : List EncodedCertificate}
    {v : VerifiedPath} {subject : Subject}
    (hjustified : verifier.Justified leaf intermediates v)
    (hsubject : verifier.policy.subject = some subject) :
    ∀ constraints ∈ PathSearch.constraintsOn v.path v.anchor,
      ¬ constraints.Excludes subject := by
  obtain ⟨_, hrole⟩ :=
    (Policy.checkEndEntity_eq_ok_iff _ _).mp hjustified.leaf_role
  obtain ⟨names, hnames, hmatch⟩ := hrole subject hsubject
  obtain ⟨entry, hentry, hnamed⟩ := List.any_eq_true.mp hmatch
  intro constraints hconstraints
  apply NameSubtrees.not_excludes_of_permits hnamed
  exact hjustified.names names hnames constraints hconstraints entry hentry

/-- Whom a server was verified for, no intermediate of the path and no anchor
excludes. -/
theorem verified_subject_not_excluded (options : VerifierOptions)
    (now : DateTime) (subject : Subject) (server : ServerVerifier)
    (leaf : EncodedCertificate) (intermediates : List EncodedCertificate)
    (v : VerifiedPath)
    (hserver : (options.server now subject).value = .ok server)
    (hverify : (server.verify leaf intermediates).value = .ok v) :
    (∀ c ∈ v.path.intermediates, ∀ constraints,
      c.nameConstraints? = some constraints → ¬ constraints.Excludes subject) ∧
    ∀ constraints, v.anchor.nameConstraints? = some constraints →
      ¬ constraints.Excludes subject := by
  have houtside := (PathVerifier.justified_of_verify_eq hverify).not_excludes
    (VerifierOptions.policy_subject_of_server hserver)
  refine ⟨?_, ?_⟩
  · intro c hc constraints hconstraints
    apply houtside
    exact List.mem_append_left _ (List.mem_filterMap.mpr ⟨c, hc, hconstraints⟩)
  · intro constraints hconstraints
    apply houtside
    rw [PathSearch.constraintsOn, hconstraints]
    exact List.mem_append_right _ (List.mem_singleton_self constraints)

open ChainFamily in
/-- A host that the leaf names by a wildcard, under authorities and an anchor
that exclude others. -/
theorem chain_host_not_excluded :
    (∀ c ∈ authorities 2 2, ∀ constraints,
      c.nameConstraints? = some constraints →
      ¬ constraints.Excludes (.dns host)) ∧
    ¬ nameConstraints.Excludes (.dns host) := by
  obtain ⟨hauthorities, hanchor⟩ :=
    verified_subject_not_excluded (options 2) now (.dns host) (server 2)
      (leaf 2) (authorities 2 2) (chain 2) (server_eq 2)
      (server_verify_chain (by decide) (by decide))
  exact ⟨hauthorities, hanchor nameConstraints rfl⟩

end TrustPath
