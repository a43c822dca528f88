import TrustPath.Proofs.DomainTree

/-!
For which subjects a list of alternative names is. A host is named by its own
name, or by an asterisk in place of its first label, and an address by its
octets; nothing else in the list counts, and neither does the letter case of
host names.
-/

namespace TrustPath

namespace DnsName

variable {cs text other : List Char} {name : DnsName}

/-- The text of a host name in any letter case: labels joined by dots, 253
characters at most. -/
structure IsHostText (cs : List Char) : Prop where
  length_le : cs.length ≤ 253
  labels : ∃ labels : List (List Char), labels ≠ [] ∧
    (∀ label ∈ labels, isLabel label = true) ∧ cs = ['.'].intercalate labels

theorem not_mem_of_isLabel {label : List Char} (hlabel : isLabel label = true) :
    '.' ∉ label := by
  intro hdot
  rw [isLabel, Bool.and_eq_true, List.all_eq_true] at hlabel
  exact absurd (hlabel.2 '.' hdot) (by decide)

theorem isHostName_iff : isHostName cs = true ↔ IsHostText cs := by
  constructor
  · intro hname
    simp only [isHostName, Bool.and_eq_true, decide_eq_true_iff,
      List.all_eq_true] at hname
    obtain ⟨⟨_, hlength⟩, hlabels⟩ := hname
    refine ⟨hlength, splitLabels cs, splitLabels_ne_nil cs, hlabels, ?_⟩
    rw [splitLabels_eq_splitOn, List.intercalate_splitOn]
  · rintro ⟨hlength, labels, hne, hlabels, hcs⟩
    have hsplit : splitLabels cs = labels := by
      rw [splitLabels_eq_splitOn, hcs]
      exact List.splitOn_intercalate '.' (fun label hmem =>
        not_mem_of_isLabel (hlabels label hmem)) hne
    have hnonempty : cs ≠ [] := by
      rintro rfl
      exact absurd (hlabels [] (by simp [← hsplit, splitLabels])) (by decide)
    simp only [isHostName, Bool.and_eq_true, decide_eq_true_iff,
      List.all_eq_true, hsplit]
    exact ⟨⟨hnonempty, hlength⟩, hlabels⟩

theorem ofChars?_eq_some_iff :
    ofChars? text = some name ↔ IsHostText text ∧ lower text = name.chars := by
  rw [ofChars?, ← isHostName_iff]
  by_cases hname : isHostName text = true
  · rw [dif_pos hname, Option.some.injEq]
    constructor
    · rintro rfl
      exact ⟨hname, rfl⟩
    · rintro ⟨_, hlower⟩
      exact chars_injective hlower
  · rw [dif_neg hname]
    constructor
    · intro hnone
      cases hnone
    · rintro ⟨hhost, _⟩
      exact absurd hhost hname

theorem ofChars?_lower (cs : List Char) :
    ofChars? (lower cs) = ofChars? cs := by
  simp only [ofChars?, isHostName_lower, lower_lower]

/-- An entry stands for a host name: it is that name, or what is left of the
name without its first label behind an asterisk and a dot. -/
inductive Designates (text : List Char) (name : DnsName) : Prop where
  | exact (hostText : IsHostText text) (same : lower text = name.chars)
  | wildcard (domain label : List Char) (star : text = '*' :: '.' :: domain)
      (hostText : IsHostText domain) (single : '.' ∉ label)
      (below : name.chars = label ++ '.' :: lower domain)

end DnsName

namespace DnsPattern

open DnsName

variable {cs text other : List Char} {name parent : DnsName}

/-- The signs of a wildcard have no letter case. -/
theorem exists_star_of_lower {domain : List Char}
    (hlower : lower cs = '*' :: '.' :: domain) :
    ∃ rest, cs = '*' :: '.' :: rest := by
  obtain ⟨star, tail, rfl, hstar, htail⟩ := List.map_eq_cons_iff.mp hlower
  obtain ⟨dot, rest, rfl, hdot, _⟩ := List.map_eq_cons_iff.mp htail
  rw [(Ascii.toLower_eq_iff (by decide)).mp hstar,
    (Ascii.toLower_eq_iff (by decide)).mp hdot]
  exact ⟨rest, rfl⟩

theorem ofChars?_lower (cs : List Char) :
    ofChars? (lower cs) = ofChars? cs := by
  by_cases hstar : ∃ domain, cs = '*' :: '.' :: domain
  · obtain ⟨domain, rfl⟩ := hstar
    change (DnsName.ofChars? (lower domain)).map wildcard =
      (DnsName.ofChars? domain).map wildcard
    rw [DnsName.ofChars?_lower]
  · have hplain : ∀ ds, (¬ ∃ domain, ds = '*' :: '.' :: domain) →
        ofChars? ds = (DnsName.ofChars? ds).map exact := by
      intro ds hds
      apply ofChars?.eq_2
      rintro domain rfl
      exact hds ⟨domain, rfl⟩
    have hstarLower : ¬ ∃ domain, lower cs = '*' :: '.' :: domain := by
      rintro ⟨domain, hlower⟩
      exact hstar (exists_star_of_lower hlower)
    rw [hplain _ hstarLower, hplain _ hstar, DnsName.ofChars?_lower]

end DnsPattern

/-- Two entries of one form are the same, letter case of host names aside. -/
inductive GeneralName.SameButCase : GeneralName → GeneralName → Prop where
  | same (entry : GeneralName) : SameButCase entry entry
  | dns {text other : String}
      (hcase : DnsName.lower text.toList = DnsName.lower other.toList) :
      SameButCase (.dns text) (.dns other)

namespace Subject

open DnsName

variable {subject : Subject} {names other extra : List GeneralName}

/-- An entry that says nothing of a subject: it is of another form, or no valid
name of its form. -/
inductive Ignores : Subject → GeneralName → Prop where
  | notHost {name : DnsName} {entry : GeneralName}
      (hform : ∀ text, entry ≠ .dns text) :
      Ignores (dns name) entry
  | invalidHost {name : DnsName} {text : String}
      (hname : ¬ IsHostText text.toList)
      (hwildcard : ∀ domain, text.toList = '*' :: '.' :: domain →
        ¬ IsHostText domain) :
      Ignores (dns name) (.dns text)
  | notAddress {address : IpAddress} {entry : GeneralName}
      (hform : ∀ octets, entry ≠ .ip octets) :
      Ignores (ip address) entry
  | invalidAddress {address : IpAddress} {octets : Bytes}
      (hfour : octets.length ≠ 4)
      (hsixteen : octets.length ≠ 16) : Ignores (ip address) (.ip octets)

theorem isNamedBy_dns_iff {name : DnsName} {text : String} :
    (dns name).isNamedBy (.dns text) = true ↔ Designates text.toList name := by
  rw [isNamedBy, Option.any_eq_true, DnsPattern.ofText?]
  constructor
  · rintro ⟨pattern, hpattern, hmatch⟩
    cases pattern with
    | exact host =>
        have hhost : host = name := of_decide_eq_true hmatch
        rw [hhost, DnsPattern.ofChars?_eq_some_exact_iff, ofChars?_eq_some_iff]
          at hpattern
        exact .exact hpattern.1 hpattern.2
    | wildcard parent =>
        have hparent : name.parent? = some parent := of_decide_eq_true hmatch
        obtain ⟨domain, hstar, hdomain⟩ :=
          DnsPattern.ofChars?_eq_some_wildcard_iff.mp hpattern
        obtain ⟨label, hlabel, hbelow⟩ := hasParent_iff.mp hparent
        obtain ⟨hhost, hlower⟩ := ofChars?_eq_some_iff.mp hdomain
        rw [← hlower] at hbelow
        exact .wildcard domain label hstar hhost hlabel hbelow
  · intro hdesignates
    cases hdesignates with
    | exact hhost hsame =>
        have hname := ofChars?_eq_some_iff.mpr ⟨hhost, hsame⟩
        exact ⟨.exact name, DnsPattern.ofChars?_eq_some_exact_iff.mpr hname,
          decide_eq_true rfl⟩
    | wildcard domain label hstar hhost hlabel hbelow =>
        let parent : DnsName :=
          ⟨lower domain, isNormal_lower (isHostName_iff.mpr hhost)⟩
        have hdomain : DnsName.ofChars? domain = some parent :=
          ofChars?_eq_some_iff.mpr ⟨hhost, rfl⟩
        have hparent : name.parent? = some parent :=
          hasParent_iff.mpr ⟨label, hlabel, hbelow⟩
        refine ⟨.wildcard parent, ?_, decide_eq_true hparent⟩
        exact DnsPattern.ofChars?_eq_some_wildcard_iff.mpr
          ⟨domain, hstar, hdomain⟩

theorem isNamedBy_eq_of_sameButCase {entry entry' : GeneralName}
    (hsame : entry.SameButCase entry') :
    subject.isNamedBy entry = subject.isNamedBy entry' := by
  cases hsame with
  | same => rfl
  | @dns text other hcase =>
      cases subject with
      | dns name =>
          have hpattern : DnsPattern.ofText? text =
              DnsPattern.ofText? other := by
            rw [DnsPattern.ofText?, DnsPattern.ofText?,
              ← DnsPattern.ofChars?_lower, hcase, DnsPattern.ofChars?_lower]
          rw [isNamedBy, isNamedBy, hpattern]
      | ip address => rfl

theorem Ignores.not_isNamedBy {entry : GeneralName}
    (hignores : subject.Ignores entry) : subject.isNamedBy entry = false := by
  rw [Bool.eq_false_iff]
  intro hnamed
  cases hignores with
  | notHost hform =>
      cases entry with
      | dns text => exact hform text rfl
      | _ => cases hnamed
  | invalidHost hname hwildcard =>
      cases isNamedBy_dns_iff.mp hnamed with
      | exact hhost _ => exact hname hhost
      | wildcard domain _ hstar hhost _ _ => exact hwildcard domain hstar hhost
  | notAddress hform =>
      cases entry with
      | ip octets => exact hform octets rfl
      | _ => cases hnamed
  | @invalidAddress address octets hfour hsixteen =>
      have hoctets : address.octets = octets := of_decide_eq_true hnamed
      have hlength := address.length_octets
      rw [hoctets] at hlength
      exact hlength.elim hfour hsixteen

theorem isMatch_dns_iff {name : DnsName} :
    (dns name).isMatch names = true ↔
      ∃ text, GeneralName.dns text ∈ names ∧ Designates text.toList name := by
  rw [isMatch, List.any_eq_true]
  constructor
  · rintro ⟨entry, hmem, hnamed⟩
    cases entry with
    | dns text => exact ⟨text, hmem, isNamedBy_dns_iff.mp hnamed⟩
    | _ => cases hnamed
  · rintro ⟨text, hmem, hdesignates⟩
    exact ⟨.dns text, hmem, isNamedBy_dns_iff.mpr hdesignates⟩

theorem isMatch_ip_iff {address : IpAddress} :
    (ip address).isMatch names = true ↔
      GeneralName.ip address.octets ∈ names := by
  rw [isMatch, List.any_eq_true]
  constructor
  · rintro ⟨entry, hmem, hnamed⟩
    cases entry with
    | ip octets =>
        have hoctets : address.octets = octets := of_decide_eq_true hnamed
        rwa [hoctets]
    | _ => cases hnamed
  · intro hmem
    exact ⟨_, hmem, decide_eq_true rfl⟩

theorem isMatch_eq_of_sameButCase
    (hsame : List.Forall₂ GeneralName.SameButCase names other) :
    subject.isMatch names = subject.isMatch other := by
  induction hsame with
  | nil => rfl
  | cons hentry _ ih =>
      rw [isMatch, isMatch, List.any_cons, List.any_cons,
        isNamedBy_eq_of_sameButCase hentry]
      exact congrArg _ ih

theorem isMatch_append_of_ignores
    (hextra : ∀ entry ∈ extra, subject.Ignores entry) :
    subject.isMatch (extra ++ names) = subject.isMatch names := by
  have hnobody : extra.any subject.isNamedBy = false := by
    rw [List.any_eq_false]
    intro entry hmem
    rw [(hextra entry hmem).not_isNamedBy]
    exact Bool.false_ne_true
  rw [isMatch, List.any_append, hnobody, Bool.false_or, isMatch]

/-- A list of alternative names is for a host exactly if one of its host name
entries stands for it, and for an address exactly if one of its addresses has
the same octets. The order of the entries does not matter, nor the letter case
of an entry or of the text that the host was read from, nor entries that say
nothing of the subject. -/
theorem isMatch_iff_designated :
    (∀ (name : DnsName) (names : List GeneralName),
      (dns name).isMatch names = true ↔
        ∃ text, GeneralName.dns text ∈ names ∧ Designates text.toList name) ∧
    (∀ (address : IpAddress) (names : List GeneralName),
      (ip address).isMatch names = true ↔
        GeneralName.ip address.octets ∈ names) ∧
    (∀ (subject : Subject) (names other : List GeneralName), names.Perm other →
      subject.isMatch names = subject.isMatch other) ∧
    (∀ (subject : Subject) (names other : List GeneralName),
      List.Forall₂ GeneralName.SameButCase names other →
      subject.isMatch names = subject.isMatch other) ∧
    (∀ (text other : String) (names : List GeneralName),
      lower text.toList = lower other.toList →
      (DnsName.ofText? text).map (fun name => (dns name).isMatch names) =
        (DnsName.ofText? other).map fun name => (dns name).isMatch names) ∧
    ∀ (subject : Subject) (names extra : List GeneralName),
      (∀ entry ∈ extra, subject.Ignores entry) →
      subject.isMatch (extra ++ names) = subject.isMatch names := by
  refine ⟨fun _ _ => isMatch_dns_iff, fun _ _ => isMatch_ip_iff, ?_, ?_, ?_, ?_⟩
  · intro subject names other hperm
    exact hperm.any_eq
  · intro subject names other hsame
    exact isMatch_eq_of_sameButCase hsame
  · intro text other names hcase
    rw [DnsName.ofText?, DnsName.ofText?, ← DnsName.ofChars?_lower, hcase,
      DnsName.ofChars?_lower]
  · intro subject names extra hextra
    exact isMatch_append_of_ignores hextra

/-- A wildcard in another letter case names the host, whatever stands beside it
that is no name of a host, and in any order. -/
theorem wildcard_names_host :
    ∃ host : DnsName, DnsName.ofText? "WWW.example.com" = some host ∧
      (∃ text, GeneralName.dns text ∈ [GeneralName.dns "*.Example.COM"] ∧
        Designates text.toList host) ∧
      (dns host).isMatch [.email "x@example.com", .dns "w*.example.com",
        .ip [1, 2, 3], .dns "*.Example.COM"] = true ∧
      (dns host).isMatch [.dns "*.Example.COM", .ip [1, 2, 3],
        .dns "w*.example.com", .email "x@example.com"] = true ∧
      (dns host).isMatch [.dns "*.example.com"] = true ∧
      (DnsName.ofText? "www.EXAMPLE.com").map
        (fun name => (dns name).isMatch [.dns "*.Example.COM"]) = some true ∧
      (ip ⟨[192, 0, 2, 1], Or.inl rfl⟩).isMatch [.ip [192, 0, 2, 1]] =
        true := by
  obtain ⟨hhost, haddress, hperm, hcase, htext, hextra⟩ :=
    isMatch_iff_designated
  let host : DnsName := ⟨"www.example.com".toList, by decide, by decide⟩
  have hread : DnsName.ofText? "WWW.example.com" = some host := by decide
  have hmatch : (dns host).isMatch [.dns "*.Example.COM"] = true := by decide
  have hignored : ∀ entry ∈ [.email "x@example.com", .dns "w*.example.com",
      .ip [1, 2, 3]], (dns host).Ignores entry := by
    intro entry hmem
    simp only [List.mem_cons, List.not_mem_nil, or_false] at hmem
    rcases hmem with rfl | rfl | rfl
    · exact .notHost nofun
    · exact .invalidHost (mt isHostName_iff.mpr (by decide)) nofun
    · exact .notHost nofun
  have hbeside := hextra (dns host) [.dns "*.Example.COM"] _ hignored
  refine ⟨host, hread, (hhost host _).mp hmatch, hbeside.trans hmatch, ?_,
    ?_, ?_, ?_⟩
  · rw [← hmatch, ← hbeside]
    exact hperm _ _ _ (by decide)
  · rw [← hmatch]
    exact hcase _ _ _ (.cons (.dns (by decide)) .nil)
  · rw [htext "www.EXAMPLE.com" "WWW.example.com" _ (by decide), hread,
      Option.map_some, hmatch]
  · exact (haddress _ _).mpr List.mem_cons_self

end Subject

end TrustPath
