import Mathlib.Data.List.Range
import TrustPath.Proofs.Envelopes
import TrustPath.Proofs.NameMatching
import TrustPath.Proofs.Pool
import TrustPath.Proofs.StraightRun
import TrustPath.Verifier

/-!
Chains of every length: a leaf, `n` authorities of which none is self-issued,
and an anchor. Every certificate is read from its own encoding. They are
verified up to the number of certificates that two octets of the serial number
tell apart, if only the depth, as it is counted, is within the limit.
-/

namespace TrustPath.ChainFamily

open Der

def digits (k : Nat) : Bytes :=
  [UInt8.ofNat (48 + k / 100 % 10), UInt8.ofNat (48 + k / 10 % 10),
    UInt8.ofNat (48 + k % 10)]

/-- A part of a name with one printable attribute below 2.5.4. -/
def part (arc : UInt8) (value : Bytes) : RelativeName :=
  [⟨⟨[0x55, 0x04, arc]⟩, ⟨.printableString, value⟩⟩]

/-- The names of the authorities have one or two parts in turn, so that no two
neighbours match. -/
def name (k : Nat) : Name :=
  ⟨if k % 2 = 0 then [part 3 (digits k)]
    else [part 10 [0x43, 0x41], part 3 (digits k)]⟩

def rootName : Name :=
  ⟨[part 6 [0x58, 0x58], part 10 [0x43, 0x41], part 3 [0x52, 0x6f, 0x6f, 0x74]]⟩

/-- Who issued the certificate below the authority with number `k`: the
authority, or the anchor if there is none. -/
def issuerName (n k : Nat) : Name :=
  if k = n then rootName else name k

def algorithm : AlgorithmIdentifier :=
  ⟨.ecdsaSha256, none⟩

def key : PublicKey :=
  ⟨⟨.ecPublicKey, some ⟨.objectIdentifier, Oid.secp256r1.content⟩⟩, ⟨0, [4]⟩⟩

/-- Valid from 2020 to 2040. -/
def validity : Validity :=
  ⟨.utc ⟨2020, 1, 1, 0, 0, 0, by decide⟩, .utc ⟨2040, 1, 1, 0, 0, 0, by decide⟩⟩

def now : DateTime :=
  ⟨2030, 1, 1, 0, 0, 0, by decide⟩

/-- An authority with the greatest path length constraint there is. -/
def basicConstraints : BasicConstraints :=
  ⟨true, some 255⟩

/-- Host names below `test` are excluded. -/
def nameConstraints : NameConstraints :=
  ⟨none, some [⟨.dns "test", 0, none⟩]⟩

def authorityExtensions : List Extension :=
  [⟨.basicConstraints, true,
      [0x30, 0x07, 0x01, 0x01, 0xff, 0x02, 0x02, 0x00, 0xff]⟩,
    ⟨.nameConstraints, true,
      [0x30, 0x0a, 0xa1, 0x08, 0x30, 0x06, 0x82, 0x04, 0x74, 0x65, 0x73, 0x74]⟩]

def alternativeNames : List GeneralName :=
  [.dns "*.example"]

def leafExtensions : List Extension :=
  [⟨.subjectAltName, false,
    [0x30, 0x0b, 0x82, 0x09, 0x2a, 0x2e, 0x65, 0x78, 0x61, 0x6d, 0x70, 0x6c,
      0x65]⟩]

def host : DnsName :=
  ⟨"www.example".toList, ⟨by decide, by decide⟩⟩

def certificate (serial : Nat) (subject issuer : Name)
    (extensions : Option (List Extension)) : Certificate where
  tbs := {
    version := .v3
    serialNumber := [1, 0, UInt8.ofNat (serial / 256), UInt8.ofNat serial]
    signature := algorithm
    issuer := issuer
    validity := validity
    subject := subject
    publicKey := key
    issuerUniqueId := none
    subjectUniqueId := none
    extensions := extensions }
  signatureAlgorithm := algorithm
  signature := ⟨0, []⟩

/-- A certificate under its canonical encoding, with the contents of its
extensions. -/
def encoded (c : Certificate) (contents : ExtensionContents) :
    EncodedCertificate :=
  ⟨c.encode, c, c.tbs.encode, contents⟩

def authorityWith (serial : Nat) (subject issuer : Name) : EncodedCertificate :=
  encoded (certificate serial subject issuer (some authorityExtensions))
    [(.basicConstraints, .basicConstraints basicConstraints),
      (.nameConstraints, .nameConstraints nameConstraints)]

/-- The authority with number `k` of a chain of `n`, counted from the leaf. -/
def authority (n k : Nat) : EncodedCertificate :=
  authorityWith (k + 1) (name k) (issuerName n (k + 1))

def leaf (n : Nat) : EncodedCertificate :=
  encoded (certificate 0 ⟨[part 3 [0x4c]]⟩ (issuerName n 0)
    (some leafExtensions))
    [(.subjectAltName, .subjectAltName alternativeNames)]

/-- The certificates from the leaf upwards, by their serial numbers. -/
def certificateAt (n : Nat) : Nat → EncodedCertificate
  | 0 => leaf n
  | k + 1 => authority n k

def anchor : TrustAnchor :=
  ⟨authorityWith 0 rootName rootName⟩

def authorities (n m : Nat) : List EncodedCertificate :=
  (List.range m).map (authority n)

def chain (n : Nat) : VerifiedPath :=
  ⟨⟨leaf n, authorities n n⟩, anchor⟩

def acceptAll : RegisteredChecker :=
  ⟨0, fun _ _ _ _ _ => .quiet (.ok ())⟩

/-- Options without extension rules, under which every signature is accepted and
no chain of the family uses up a budget. -/
def options (maxChainDepth : UInt8) : VerifierOptions where
  validationTime := some now
  store := some ⟨[anchor]⟩
  maxChainDepth := some maxChainDepth
  authorityRules := some .permitAll
  leafRules := some .permitAll
  purpose := none
  minimumRsaModulus := none
  limits := some ⟨70000, 70000⟩
  environment := some ⟨[acceptAll]⟩

def verifier (maxChainDepth : UInt8) (subject : Option Subject)
    (purpose : Oid) : PathVerifier where
  policy :=
    ⟨now, maxChainDepth, subject, purpose, defaultMinimumRsaModulus,
      ⟨70000, 70000⟩, plainKeyFault⟩
  store := ⟨[anchor]⟩
  authorityRules := .permitAll
  leafRules := .permitAll
  environment := ⟨[acceptAll]⟩

def server (maxChainDepth : UInt8) : ServerVerifier :=
  ⟨verifier maxChainDepth (some (.dns host)) .serverAuth, .dns host⟩

def client (maxChainDepth : UInt8) : ClientVerifier :=
  ⟨verifier maxChainDepth none .clientAuth⟩

theorem server_eq (maxChainDepth : UInt8) :
    ((options maxChainDepth).server now (.dns host)).value =
      .ok (server maxChainDepth) := rfl

def search (n : Nat) (maxChainDepth : UInt8) (subject : Option Subject)
    (purpose : Oid) : PathSearch :=
  (verifier maxChainDepth subject purpose).search (leaf n) (authorities n n)

variable {n k : Nat} {maxChainDepth : UInt8} {subject : Option Subject}
  {purpose : Oid}

/-! ### The names -/

theorem name_cases (k : Nat) :
    ∃ a b c, name k = ⟨[part 3 [a, b, c]]⟩ ∨
      name k = ⟨[part 10 [0x43, 0x41], part 3 [a, b, c]]⟩ := by
  obtain ⟨a, b, c, hdigits⟩ : ∃ a b c, digits k = [a, b, c] := ⟨_, _, _, rfl⟩
  refine ⟨a, b, c, ?_⟩
  rw [name, hdigits]
  split
  · exact Or.inl rfl
  · exact Or.inr rfl

theorem issuerName_cases (n k : Nat) :
    ∃ a b c, issuerName n k = rootName ∨
      issuerName n k = ⟨[part 3 [a, b, c]]⟩ ∨
      issuerName n k = ⟨[part 10 [0x43, 0x41], part 3 [a, b, c]]⟩ := by
  obtain ⟨a, b, c, hname⟩ := name_cases k
  refine ⟨a, b, c, ?_⟩
  rw [issuerName]
  split
  · exact Or.inl rfl
  · exact Or.inr hname

theorem length_name (k : Nat) : (name k).rdns.length = 1 + k % 2 := by
  rcases Nat.mod_two_eq_zero_or_one k with heven | hodd
  · simp [name, heven]
  · simp [name, hodd]

theorem isEmpty_issuerName (n k : Nat) : (issuerName n k).isEmpty = false := by
  obtain ⟨a, b, c, hname | hname | hname⟩ := issuerName_cases n k <;>
    rw [hname] <;> rfl

/-- The anchor's name matches no authority's. -/
theorem rootName_isMatch_name (k : Nat) :
    rootName.isMatch (name k) = false := by
  apply Name.isMatch_eq_false_of_length_ne
  rw [length_name]
  change 3 ≠ _
  omega

/-- No authority is self-issued. -/
theorem isSelfIssued_authority (n k : Nat) :
    (authority n k).isSelfIssued = false := by
  apply Name.isMatch_eq_false_of_length_ne
  change (issuerName n (k + 1)).rdns.length ≠ (name k).rdns.length
  rw [issuerName, length_name]
  split
  · change 3 ≠ _
    omega
  · rw [length_name]
    omega

theorem issuer_certificateAt (n k : Nat) :
    (certificateAt n k).issuer = issuerName n k := by
  cases k with
  | zero => rfl
  | succ k => rfl

/-! ### The encodings -/

/-- Whatever the octets of numbers and names are, they are read as they
stand. -/
theorem decode?_certificateAt (n k : Nat) :
    Certificate.decode? (certificateAt n k).certificate.encode =
      some (certificateAt n k).certificate := by
  cases k with
  | zero =>
      obtain ⟨_, _, _, hissuer | hissuer | hissuer⟩ := issuerName_cases n 0 <;>
        rw [certificateAt, leaf, hissuer] <;> cbv
  | succ k =>
      obtain ⟨_, _, _, hsubject⟩ := name_cases k
      obtain ⟨_, _, _, hissuer⟩ := issuerName_cases n (k + 1)
      rw [certificateAt, authority, authorityWith, encoded, certificate]
      generalize UInt8.ofNat ((k + 1) / 256) = high, UInt8.ofNat (k + 1) = low
      rcases hsubject with hsubject | hsubject <;>
        rcases hissuer with hissuer | hissuer | hissuer <;>
        rw [hsubject, hissuer] <;> cbv

/-- Every certificate is what its encoding is read as. -/
theorem ofBytes?_certificateAt (n k : Nat) :
    EncodedCertificate.ofBytes? (certificateAt n k).encoding =
      some (certificateAt n k) := by
  have hread := decode?_certificateAt n k
  cases k with
  | zero => exact EncodedCertificate.ofBytes?_encode hread rfl
  | succ k => exact EncodedCertificate.ofBytes?_encode hread rfl

theorem serialNumber_certificateAt (n k : Nat) :
    (certificateAt n k).certificate.tbs.serialNumber =
      [1, 0, UInt8.ofNat (k / 256), UInt8.ofNat k] := by
  cases k with
  | zero => rfl
  | succ k => rfl

/-- Encodings tell apart as many certificates as two octets can number. -/
theorem encoding_certificateAt_injective {n j k : Nat} (hj : j < 65536)
    (hk : k < 65536) (hencoding : (certificateAt n j).encoding =
      (certificateAt n k).encoding) : j = k := by
  have hsame : some (certificateAt n j) = some (certificateAt n k) := by
    rw [← ofBytes?_certificateAt n j, hencoding, ofBytes?_certificateAt n k]
  have hserial := serialNumber_certificateAt n j
  rw [Option.some.inj hsame, serialNumber_certificateAt n k] at hserial
  simp only [List.cons.injEq, and_true, true_and] at hserial
  have hhigh := congrArg UInt8.toNat hserial.1
  have hlow := congrArg UInt8.toNat hserial.2
  simp only [UInt8.toNat_ofNat'] at hhigh hlow
  omega

theorem certificates_eq (n m : Nat) :
    Path.certificates ⟨leaf n, authorities n m⟩ = (List.range (m + 1)).map
      (certificateAt n) := by
  rw [List.range_succ_eq_map, List.map_cons, List.map_map]
  rfl

theorem encodings_nodup {n m : Nat} (hm : m < 65536) :
    ((Path.certificates ⟨leaf n, authorities n m⟩).map (·.encoding)).Nodup := by
  rw [certificates_eq, List.map_map]
  apply List.Nodup.map_on
  · intro j hj k hk hencoding
    rw [List.mem_range] at hj hk
    exact encoding_certificateAt_injective (by omega) (by omega) hencoding
  · exact List.nodup_range

/-- In the family, an encoding belongs to one certificate only. -/
theorem eq_of_encoding_eq (hn : n < 65535) :
    ∀ a ∈ leaf n :: authorities n n, ∀ b ∈ leaf n :: authorities n n,
      a.encoding = b.encoding → a = b := by
  intro a ha b hb hencoding
  change a ∈ Path.certificates ⟨leaf n, authorities n n⟩ at ha
  change b ∈ Path.certificates ⟨leaf n, authorities n n⟩ at hb
  rw [certificates_eq, List.mem_map] at ha hb
  obtain ⟨j, hj, rfl⟩ := ha
  obtain ⟨k, hk, rfl⟩ := hb
  rw [List.mem_range] at hj hk
  rw [encoding_certificateAt_injective (by omega) (by omega) hencoding]

theorem top_eq (n m : Nat) :
    Path.top ⟨leaf n, authorities n m⟩ = certificateAt n m := by
  have hlast := Path.getLast?_certificates ⟨leaf n, authorities n m⟩
  rw [certificates_eq, List.range_succ, List.map_append, List.map_singleton,
    List.getLast?_concat] at hlast
  exact (Option.some.inj hlast).symm

/-! ### The checks of one certificate -/

theorem now_within_validity :
    validity.notBefore.moment.toSeconds ≤ now.toSeconds ∧
      now.toSeconds ≤ validity.notAfter.moment.toSeconds := by
  decide

theorem checkForm_eq {serial : Nat} {subjectName issuer : Name}
    {extensions : Option (List Extension)} {contents : ExtensionContents}
    (hissuer : issuer.isEmpty = false) :
    (verifier maxChainDepth subject purpose).policy.checkForm
      (encoded (certificate serial subjectName issuer extensions) contents) =
        .ok () := by
  obtain ⟨hbefore, hafter⟩ := now_within_validity
  simp only [Policy.checkForm, encoded, certificate, verifier,
    TbsCertificate.validAt, hissuer]
  simp [maxSerialLength, Nat.not_lt.mpr hbefore, Nat.not_lt.mpr hafter,
    Logged.quiet, Except.map]
  decide

theorem checkAlgorithms_eq {serial : Nat} {subjectName issuer : Name}
    {extensions : Option (List Extension)} {contents : ExtensionContents} :
    Policy.checkAlgorithms
      (encoded (certificate serial subjectName issuer extensions) contents) =
      .ok () := by
  rfl

/-- No depth is too great for an authority of the family. -/
theorem checkAuthority_eq (n k : Nat) {depth : Nat} (hdepth : depth ≤ 255) :
    Policy.checkAuthority (authority n k) depth = .ok () := by
  have hbasic : (authority n k).basicConstraints? = some basicConstraints := rfl
  have huses : (authority n k).keyUsage? = none := rfl
  have hlength : basicConstraints.pathLength.filter (fun n => n.toNat < depth) =
      none := by
    simp only [basicConstraints, Option.filter_eq_none_iff]
    intro a ha
    cases ha
    simp
    omega
  rw [Policy.checkAuthority, hbasic]
  dsimp only
  rw [hlength, huses]
  rfl

theorem host_isMatch : (Subject.dns host).isMatch alternativeNames = true := by
  decide

/-- The leaf is accepted whatever is supplied with it. -/
theorem checkLeaf_eq (intermediates : List EncodedCertificate)
    (hsubject : ∀ s, subject = some s → s.isMatch alternativeNames = true) :
    ((verifier maxChainDepth subject purpose).search
      (leaf n) intermediates).checkLeaf .permitAll = .ok () := by
  rw [PathSearch.checkLeaf_eq_ok_iff]
  refine ⟨checkForm_eq (isEmpty_issuerName n 0), checkAlgorithms_eq, rfl, ?_⟩
  cases subject with
  | none => rfl
  | some s =>
      change (if s.isMatch alternativeNames then _ else _) = _
      rw [if_pos (hsubject s rfl)]

theorem checkCandidate_eq (n k : Nat) {depth : Nat} (hcounted : depth ≤ 255)
    (hdepth : min (depth + 1) 255 ≤ maxChainDepth.toNat) :
    (search n maxChainDepth subject purpose).checkCandidate
      (authority n k) depth = .ok (min (depth + 1) 255) := by
  have habove : PathSearch.depthAbove (authority n k) depth =
      min (depth + 1) 255 := by
    rw [PathSearch.depthAbove, isSelfIssued_authority]
    rfl
  rw [PathSearch.checkCandidate_eq_ok_iff, habove]
  refine ⟨⟨?_, checkAlgorithms_eq, checkAuthority_eq n k hcounted, ?_, rfl⟩,
    rfl⟩
  · exact checkForm_eq (isEmpty_issuerName n (k + 1))
  · rw [habove]
    exact hdepth

/-! ### The chain as a path -/

theorem nonSelfIssued_authorities (n m : Nat) :
    nonSelfIssued (authorities n m) = m := by
  simp [nonSelfIssued, authorities, List.countP_map, Function.comp_def,
    isSelfIssued_authority]

/-- Below each authority of the chain stand the ones before it. -/
theorem authorities_split {below above : List EncodedCertificate}
    {c : EncodedCertificate} (hsplit : authorities n n = below ++ c :: above) :
    ∃ k < n, below = authorities n k ∧ c = authority n k := by
  have hlength := congrArg List.length hsplit
  rw [List.length_append, List.length_cons, authorities, List.length_map,
    List.length_range]
    at hlength
  have hshort : below.length < n := by omega
  refine ⟨below.length, hshort, ?_, ?_⟩
  · have hbelow := congrArg (List.take below.length) hsplit
    rw [List.take_left, authorities, ← List.map_take, List.take_range,
      Nat.min_eq_left (Nat.le_of_lt hshort)] at hbelow
    exact hbelow.symm
  · have hc := congrArg (fun cs => cs[below.length]?) hsplit
    simp [authorities, hshort] at hc
    exact hc.symm

theorem issued (n k : Nat) :
    (search n maxChainDepth subject purpose).environment.Issued
      (certificateAt n k)
      (issuerName n k) key := by
  refine ⟨?_, rfl⟩
  rw [issuer_certificateAt]
  exact Name.isMatch_self (issuerName n k)

theorem keysOf_chain {c : PublicKey}
    (hc : c ∈ PathSearch.keysOf (chain n).path anchor) : c = key := by
  rw [PathSearch.keysOf, chain, certificates_eq, List.map_map, List.mem_append,
    List.mem_singleton, List.mem_map] at hc
  rcases hc with ⟨j, _, hj⟩ | hc
  · cases j with
    | zero => exact hj.symm
    | succ j => exact hj.symm
  · exact hc

theorem constraintsOn_chain {c : NameConstraints}
    (hc : c ∈ PathSearch.constraintsOn (chain n).path anchor) :
    c = nameConstraints := by
  rw [PathSearch.constraintsOn, List.mem_append, List.mem_filterMap] at hc
  rcases hc with ⟨a, ha, hsome⟩ | hc
  · obtain ⟨j, _, rfl⟩ := List.mem_map.mp ha
    exact (Option.some.inj hsome).symm
  · exact List.mem_singleton.mp hc

theorem permits_alternativeNames :
    ∀ entry ∈ alternativeNames,
      (NameSubtrees.ofConstraints nameConstraints).permits entry = true := by
  decide

theorem checkWholePath_eq (n : Nat) :
    (search n maxChainDepth subject purpose).checkWholePath
      (chain n).path anchor = .ok () := by
  rw [PathSearch.checkWholePath_eq_ok_iff]
  refine ⟨?_, ?_⟩
  · intro c hc
    rw [keysOf_chain hc]
    rfl
  · intro names hnames c hc
    cases hnames
    rw [constraintsOn_chain hc, NameSubtrees.check_eq_ok_iff]
    exact permits_alternativeNames

/-- The chain is a valid path for what is supplied with it. -/
theorem valid (hn : n < 65535) (hdepth : min n 255 ≤ maxChainDepth.toNat) :
    (search n maxChainDepth subject purpose).Valid (authorities n n)
      (chain n) where
  leaf_eq := rfl
  supplied := fun _ hc => hc
  distinct := encodings_nodup (by omega)
  linked := by
    rw [chain, certificates_eq, List.isChain_map, List.isChain_range_succ]
    intro k hk
    have hsubject : (certificateAt n (k + 1)).subject = issuerName n k := by
      rw [issuerName, if_neg (Nat.ne_of_lt hk)]
      rfl
    rw [hsubject]
    exact issued n k
  passed := by
    intro below c above hsplit
    obtain ⟨k, hk, rfl, rfl⟩ := authorities_split hsplit
    refine ⟨_, checkCandidate_eq n k (Nat.min_le_right _ _) ?_⟩
    rw [PathSearch.depthOf, nonSelfIssued_authorities, PathSearch.maxDepth]
    omega
  trusted := List.mem_singleton_self anchor
  closed := by
    have htop : (chain n).path.top = certificateAt n n := top_eq n n
    have hsubject : (chain n).anchor.subject = issuerName n n := by
      rw [issuerName, if_pos rfl]
      rfl
    rw [htop, hsubject]
    exact issued n n
  whole := checkWholePath_eq n

theorem pool_eq (hn : n < 65535) :
    (search n maxChainDepth subject purpose).pool = authorities n n := by
  apply PathSearch.fresh_eq_self
  exact encodings_nodup (n := n) (m := n) (by omega)

/-- Only the top of the chain names the anchor as its issuer. -/
theorem anchorsFor_eq (n k : Nat) :
    (search n maxChainDepth subject purpose).anchorsFor
        ⟨leaf n, authorities n k⟩ =
      if k = n then [anchor] else [] := by
  have hanchors : (search n maxChainDepth subject purpose).anchorsFor
      ⟨leaf n, authorities n k⟩ =
        [anchor].filter fun a => a.subject.isMatch (issuerName n k) := by
    rw [PathSearch.anchorsFor, top_eq, issuer_certificateAt]
    rfl
  rw [hanchors, issuerName, List.filter_singleton]
  split
  · rfl
  · rw [show anchor.subject.isMatch (name k) =
      false from rootName_isMatch_name k]
    rfl

/-- The search goes straight up the chain, at one step for each certificate. -/
theorem straight (hn : n < 65535) (hdepth : min n 255 ≤ maxChainDepth.toNat) :
    (search n maxChainDepth subject purpose).Straight ⟨leaf n, []⟩ (chain n)
      (n + 1) := by
  have hvalid : (search n maxChainDepth subject purpose).Valid
      (search n maxChainDepth subject purpose).pool (chain n) := by
    rw [pool_eq hn]
    exact valid hn hdepth
  have hstraight := hvalid.straight (pool_eq hn) ?_ ?_ (List.nil_append _).symm
  · rwa [chain, authorities, List.length_map, List.length_range] at hstraight
  · intro below c above hsplit
    obtain ⟨k, hk, rfl, rfl⟩ := authorities_split hsplit
    rw [show (chain n).path.leaf = leaf n from rfl, anchorsFor_eq,
      if_neg (Nat.ne_of_lt hk)]
  · rw [show (chain n).path = ⟨leaf n, authorities n n⟩ from rfl, anchorsFor_eq,
      if_pos rfl]
    exact ⟨[], rfl⟩

/-- Every chain of the family is verified under a limit that its counted depth
does not exceed, for every subject that the leaf names. -/
theorem verify_chain
    (hsubject : ∀ s, subject = some s → s.isMatch alternativeNames = true)
    (hn : n < 65535) (hdepth : min n 255 ≤ maxChainDepth.toNat) :
    ((verifier maxChainDepth subject purpose).verify (leaf n)
      (authorities n n)).value = .ok (chain n) := by
  have hbudget : (search n maxChainDepth subject purpose).HasBudget .start
      (n + 1) := by
    refine ⟨?_, ?_⟩
    · change 0 + (n + 1) ≤ 70000
      omega
    · change 0 + (n + 1) ≤ 70000
      omega
  obtain ⟨q, _, hrun⟩ :=
    (straight hn hdepth).run_eq
      (checkLeaf_eq (authorities n n) hsubject) hbudget
  exact congrArg Prod.fst hrun

theorem server_verify_chain (hn : n < 65535)
    (hdepth : min n 255 ≤ maxChainDepth.toNat) :
    ((server maxChainDepth).verify (leaf n) (authorities n n)).value =
      .ok (chain n) := by
  apply verify_chain _ hn hdepth
  intro s hs
  cases hs
  exact host_isMatch

theorem client_verify_chain (hn : n < 65535)
    (hdepth : min n 255 ≤ maxChainDepth.toNat) :
    ((client maxChainDepth).verify (leaf n) (authorities n n)).value =
      .ok ⟨chain n, some [.dns "*.example"]⟩ := by
  have hpath : ((client maxChainDepth).inner.verify (leaf n)
      (authorities n n)).value = .ok (chain n) := by
    apply verify_chain _ hn hdepth
    intro s hs
    cases hs
  rw [ClientVerifier.verify]
  dsimp only
  rw [hpath]
  rfl

end TrustPath.ChainFamily
