import TrustPath.Proofs.SubjectMatching

/-!
Host names and the names above them. Leaving out the first label only cuts a
text behind its first dot, and nothing is checked again; but the labels that are
left are labels of the name, so what is left is a host name in lower case, and
reading it gives it back.
-/

namespace TrustPath.DnsName

variable {name parent domain : DnsName} {cs label rest : List Char} {c : Char}
  {k : Nat}

/-! ### Texts that are host names -/

/-- A host name as it is kept: labels in lower case with dots between them, one
to 253 octets in all. -/
structure IsCanonical (text : String) : Prop where
  nonempty : text ≠ ""
  size_le : text.utf8ByteSize ≤ 253
  lowercase : text.toLower = text
  labels : ∀ label ∈ text.toList.splitOn '.', isLabel label = true

theorem toNat_lt_of_isLabel (hlabel : isLabel label = true) (hc : c ∈ label) :
    c.toNat < 128 := by
  simp only [isLabel, Bool.and_eq_true, List.all_eq_true, Bool.or_eq_true,
    decide_eq_true_iff] at hlabel
  obtain ⟨_, hall⟩ := hlabel
  rcases hall c hc with (halphanum | hhyphen) | hunderscore
  · have hcases := (Ascii.isAlphanum_iff c).mp halphanum
    omega
  · rw [hhyphen]
    decide
  · rw [hunderscore]
    decide

theorem mem_splitLabels (hc : c ∈ cs) : c = '.' ∨ ∃ label ∈ splitLabels cs,
      c ∈ label := by
  induction cs with
  | nil => exact absurd hc List.not_mem_nil
  | cons d cs ih =>
      by_cases hd : d = '.'
      · rw [hd, splitLabels_dot]
        by_cases hdot : c = '.'
        · exact Or.inl hdot
        · right
          have hrest : c ∈ cs := List.mem_of_ne_of_mem (hd ▸ hdot) hc
          obtain ⟨label, hlabel, hmem⟩ := (ih hrest).resolve_left hdot
          exact ⟨label, List.mem_cons_of_mem _ hlabel, hmem⟩
      · obtain ⟨first, labels, hlabels⟩ :=
          List.exists_cons_of_ne_nil (splitLabels_ne_nil cs)
        rw [splitLabels_cons hd hlabels]
        rw [hlabels] at ih
        simp only [List.mem_cons, exists_eq_or_imp] at hc ih ⊢
        rcases hc with hfirst | hrest
        · exact Or.inr (Or.inl (Or.inl hfirst))
        · apply (ih hrest).imp_right
          intro hsome
          exact hsome.imp_left Or.inr

theorem utf8Size_eq_one (hc : c.toNat < 128) : c.utf8Size = 1 := by
  rw [Char.utf8Size_eq_one_iff, UInt32.le_iff_toNat_le]
  exact Nat.le_of_lt_succ hc

theorem utf8ByteSize_of_ascii (hascii : ∀ c ∈ cs, c.toNat < 128) :
    (String.ofList cs).utf8ByteSize = cs.length := by
  induction cs with
  | nil => rfl
  | cons c cs ih =>
      have hfirst := utf8Size_eq_one (hascii c List.mem_cons_self)
      have hrest := ih fun d hd => hascii d (List.mem_cons_of_mem c hd)
      rw [String.ofList_cons, String.utf8ByteSize_append,
        String.utf8ByteSize_singleton, hfirst, hrest,
        List.length_cons, Nat.add_comm]

theorem toList_toLower (text : String) :
    text.toLower.toList = lower text.toList :=
  String.toList_map

theorem isCanonical_text (name : DnsName) : IsCanonical name.text := by
  have hname := name.isNormal.hostName
  simp only [isHostName, Bool.and_eq_true, decide_eq_true_iff, List.all_eq_true]
    at hname
  obtain ⟨⟨hne, hlength⟩, hlabels⟩ := hname
  have hascii : ∀ c ∈ name.chars, c.toNat < 128 := by
    intro c hc
    rcases mem_splitLabels hc with hdot | ⟨label, hlabel, hmem⟩
    · rw [hdot]
      decide
    · exact toNat_lt_of_isLabel (hlabels label hlabel) hmem
  constructor
  · exact mt String.ofList_eq_empty_iff.mp hne
  · rwa [text, utf8ByteSize_of_ascii hascii]
  · rw [text, ← String.toList_inj, toList_toLower, String.toList_ofList,
      name.isNormal.lower_eq]
  · rwa [text, String.toList_ofList, ← splitLabels_eq_splitOn]

theorem ofText?_text (name : DnsName) : ofText? name.text = some name := by
  rw [ofText?, text, String.toList_ofList]
  exact ofChars?_chars name

/-! ### Labels and dots -/

theorem splitLabels_of_not_mem (hlabel : '.' ∉ label) :
    splitLabels label = [label] := by
  induction label with
  | nil => rfl
  | cons c label ih =>
      rw [List.mem_cons, not_or] at hlabel
      exact splitLabels_cons (Ne.symm hlabel.1) (ih hlabel.2)

theorem length_splitLabels (cs : List Char) :
    (splitLabels cs).length = cs.count '.' + 1 := by
  induction cs with
  | nil => rfl
  | cons c cs ih =>
      by_cases hc : c = '.'
      · rw [hc, splitLabels_dot, List.length_cons, ih, List.count_cons_self]
      · obtain ⟨label, labels, hlabels⟩ :=
          List.exists_cons_of_ne_nil (splitLabels_ne_nil cs)
        rw [splitLabels_cons hc hlabels, List.count_cons_of_ne hc, ← ih,
          hlabels]
        rfl

theorem labels_injective (hlabels : name.labels = domain.labels) :
    name = domain := by
  apply chars_injective
  rw [← intercalate_labels, hlabels, intercalate_labels]

theorem labels_of_hasParent (hparent : HasParent name parent) :
    ∃ label, name.labels = label :: parent.labels := by
  obtain ⟨label, hlabel, hchars⟩ := hasParent_iff.mp hparent
  refine ⟨label, ?_⟩
  rw [labels, hchars, splitLabels_append_dot, splitLabels_of_not_mem hlabel]
  rfl

/-! ### The way up -/

theorem chars_parent? (name : DnsName) :
    name.parent?.map chars = afterDot? name.chars := by
  rw [parent?, Option.map_pmap, Option.pmap_eq_map _ fun cs =>
    cs, Option.map_id']

theorem afterDot?_of_no_parent (hnone : name.parent? = none) :
    afterDot? name.chars = none := by
  rw [← chars_parent?, hnone, Option.map_none]

theorem afterDot?_of_hasParent (hparent : HasParent name parent) :
    afterDot? name.chars = some parent.chars := by
  rw [← chars_parent?, hparent, Option.map_some]

theorem labels_of_no_parent (hnone : name.parent? = none) :
    name.labels = [name.chars] :=
  splitLabels_of_not_mem
    (not_mem_of_afterDot?_eq_none (afterDot?_of_no_parent hnone))

/-- The name that is reached by leaving out the first label so many times. -/
def ascend? : Nat → DnsName → Option DnsName
  | 0, name => some name
  | k + 1, name => name.parent?.bind (ascend? k)

/-- What stands behind so many dots of a text. -/
def behindDots? : Nat → List Char → Option (List Char)
  | 0, cs => some cs
  | k + 1, cs => (afterDot? cs).bind (behindDots? k)

/-- On the way up a name is only cut. -/
theorem chars_ascend? (k : Nat) (name : DnsName) :
    (ascend? k name).map chars = behindDots? k name.chars := by
  induction k generalizing name with
  | zero => rfl
  | succ k ih =>
      rw [ascend?, behindDots?, ← chars_parent?]
      cases name.parent? with
      | none => rfl
      | some parent => exact ih parent

theorem ascend?_eq_some_iff :
    ascend? k name = some domain ↔
      k < name.labels.length ∧ domain.labels = name.labels.drop k := by
  induction k generalizing name with
  | zero =>
      rw [ascend?, Option.some.injEq, List.drop_zero]
      constructor
      · intro hname
        rw [hname]
        exact ⟨List.length_pos_iff.mpr (splitLabels_ne_nil _), rfl⟩
      · intro hlabels
        exact labels_injective hlabels.2.symm
  | succ k ih =>
      rw [ascend?]
      cases hparent : name.parent? with
      | none =>
          rw [labels_of_no_parent hparent]
          simp
      | some parent =>
          obtain ⟨label, hlabels⟩ := labels_of_hasParent hparent
          rw [Option.bind_some, ih, hlabels, List.length_cons,
            Nat.succ_lt_succ_iff, List.drop_succ_cons]

/-! ### All names above a name -/

theorem afterDots_of_afterDot?_eq_none (hnone : afterDot? cs = none) :
    afterDots cs = [] := by
  induction cs with
  | nil => rfl
  | cons c cs ih =>
      rw [afterDot?] at hnone
      rw [afterDots]
      split at hnone
      next => cases hnone
      next hc => rw [if_neg hc, ih hnone]

theorem afterDots_of_afterDot?_eq_some (hrest : afterDot? cs = some rest) :
    afterDots cs = rest :: afterDots rest := by
  induction cs with
  | nil => cases hrest
  | cons c cs ih =>
      rw [afterDot?] at hrest
      rw [afterDots]
      split at hrest
      next hc =>
        cases hrest
        rw [if_pos hc]
      next hc => rw [if_neg hc, ih hrest]

theorem length_afterDots (cs : List Char) :
    (afterDots cs).length = cs.count '.' := by
  induction cs with
  | nil => rfl
  | cons c cs ih =>
      rw [afterDots]
      by_cases hc : c = '.'
      · rw [if_pos hc, List.length_cons, ih, hc, List.count_cons_self]
      · rw [if_neg hc, ih, List.count_cons_of_ne hc]

theorem chars_ancestors (name : DnsName) :
    name.ancestors.map chars = afterDots name.chars := by
  rw [ancestors, List.map_pmap, List.pmap_eq_map, List.map_id']

theorem ancestors_eq_of_chars_eq {names : List DnsName}
    (hchars : afterDots name.chars = names.map chars) :
    name.ancestors = names := by
  have hinjective : Function.Injective chars := fun _ _ => chars_injective
  apply List.map_injective_iff.mpr hinjective
  rw [chars_ancestors, hchars]

theorem ancestors_of_no_parent (hnone : name.parent? = none) :
    name.ancestors = [] :=
  ancestors_eq_of_chars_eq
    (afterDots_of_afterDot?_eq_none (afterDot?_of_no_parent hnone))

theorem ancestors_of_hasParent (hparent : HasParent name parent) :
    name.ancestors = parent :: parent.ancestors := by
  apply ancestors_eq_of_chars_eq
  rw [afterDots_of_afterDot?_eq_some (afterDot?_of_hasParent hparent),
    List.map_cons, chars_ancestors]

/-- The names above a name are its parent, the parent of that, and so on. -/
theorem getElem?_ancestors (name : DnsName) (k : Nat) :
    name.ancestors[k]? = ascend? (k + 1) name := by
  induction k generalizing name with
  | zero =>
      cases hparent : name.parent? with
      | none =>
          rw [ancestors_of_no_parent hparent, ascend?, hparent,
            List.getElem?_nil, Option.bind_none]
      | some parent =>
          rw [ancestors_of_hasParent hparent, ascend?, hparent]
          rfl
  | succ k ih =>
      cases hparent : name.parent? with
      | none =>
          rw [ancestors_of_no_parent hparent, ascend?, hparent,
            List.getElem?_nil, Option.bind_none]
      | some parent =>
          rw [ancestors_of_hasParent hparent, ascend?, hparent,
            List.getElem?_cons_succ, ih, Option.bind_some]

theorem length_ancestors (name : DnsName) :
    name.ancestors.length = name.chars.count '.' := by
  rw [← length_afterDots, ← chars_ancestors, List.length_map]

theorem labels_of_getElem?_ancestors
    (hdomain : name.ancestors[k]? = some domain) :
    k + 1 < name.labels.length ∧ domain.labels = name.labels.drop (k + 1) := by
  rw [getElem?_ancestors] at hdomain
  exact ascend?_eq_some_iff.mp hdomain

theorem mem_labels_ancestors_iff {suffix : List (List Char)} :
    suffix ∈ name.ancestors.map labels ↔
      suffix ≠ [] ∧ suffix ≠ name.labels ∧ suffix <:+ name.labels := by
  rw [List.mem_map]
  constructor
  · rintro ⟨domain, hdomain, rfl⟩
    obtain ⟨k, hk⟩ := List.mem_iff_getElem?.mp hdomain
    obtain ⟨hlength, hlabels⟩ := labels_of_getElem?_ancestors hk
    refine ⟨splitLabels_ne_nil _, ?_, hlabels ▸ List.drop_suffix _ _⟩
    intro hsame
    have hshorter := congrArg List.length (hsame.symm.trans hlabels)
    rw [List.length_drop] at hshorter
    omega
  · rintro ⟨hne, hproper, front, hfront⟩
    -- the place is told by the number of labels left out, one at least
    cases front with
    | nil => exact absurd hfront hproper
    | cons label front =>
        have hlength : front.length < name.ancestors.length := by
          have htotal := congrArg List.length hfront
          have hpositive := List.length_pos_iff.mpr hne
          rw [labels, length_splitLabels, ← length_ancestors,
            List.length_append, List.length_cons]
            at htotal
          omega
        refine ⟨name.ancestors[front.length], List.getElem_mem hlength, ?_⟩
        rw [(labels_of_getElem?_ancestors (List.getElem?_eq_getElem hlength)).2,
          ← hfront]
        exact List.drop_left

theorem nodup_ancestors (name : DnsName) : name.ancestors.Nodup := by
  rw [List.Nodup, List.pairwise_iff_getElem]
  intro i j hi hj hij hsame
  obtain ⟨hbelow, hlabels⟩ :=
    labels_of_getElem?_ancestors (List.getElem?_eq_getElem hi)
  obtain ⟨_, hlabels'⟩ :=
    labels_of_getElem?_ancestors (List.getElem?_eq_getElem hj)
  rw [hsame, hlabels'] at hlabels
  -- ends of one list that are the same have the same length
  have hlengths := congrArg List.length hlabels
  rw [List.length_drop, List.length_drop] at hlengths
  omega

/-- Whatever host name is read, and however often its first label is left out,
the name that is reached is the text in lower case behind so many dots, and
without another check it is a host name as it is kept, which reading gives back.
Reading does not depend on letter case. The names above a name have the shorter
ends of its list of labels, each end once, and there are as many of them as the
name has dots. -/
theorem names_canonical :
    (∀ (text : String) (name domain : DnsName) (k : Nat),
      ofText? text = some name → ascend? k name = some domain →
      behindDots? k (lower text.toList) = some domain.chars ∧
        IsCanonical domain.text ∧ ofText? domain.text = some domain) ∧
    (∀ (name : DnsName) (k : Nat),
      (ascend? k name).map chars = behindDots? k name.chars) ∧
    (∀ text other : String, text.toLower = other.toLower →
      ofText? text = ofText? other) ∧
    (∀ (name : DnsName) (k : Nat), name.ancestors[k]? = ascend? (k + 1) name) ∧
    (∀ (name : DnsName) (suffix : List (List Char)),
      suffix ∈ name.ancestors.map labels ↔
      suffix ≠ [] ∧ suffix ≠ name.labels ∧ suffix <:+ name.labels) ∧
    ∀ name : DnsName, name.ancestors.Nodup ∧
      name.ancestors.length = name.chars.count '.' := by
  refine ⟨?_, ?_, ?_, ?_, ?_, ?_⟩
  · intro text name domain k hname hdomain
    refine ⟨?_, isCanonical_text domain, ofText?_text domain⟩
    rw [lower_of_ofChars? hname, ← chars_ascend?, hdomain, Option.map_some]
  · intro name k
    exact chars_ascend? k name
  · intro text other hcase
    have hlower : lower text.toList = lower other.toList := by
      rw [← toList_toLower, ← toList_toLower, hcase]
    rw [ofText?, ofText?, ← ofChars?_lower, hlower, ofChars?_lower]
  · intro name k
    exact getElem?_ancestors name k
  · intro name suffix
    exact mem_labels_ancestors_iff
  · intro name
    exact ⟨nodup_ancestors name, length_ancestors name⟩

/-- A host read in capitals, and the two domains above it. -/
theorem capitals_canonical :
    ∃ host site top : DnsName, ofText? "WWW.EXAMPLE.COM" = some host ∧
      ofText? "www.example.com" = some host ∧ ascend? 1 host = some site ∧
      host.ancestors = [site, top] ∧ IsCanonical site.text ∧
      ofText? site.text = some site ∧
      site.text = "example.com" := by
  obtain ⟨hcanonical, _, hcase, habove, _, _⟩ := names_canonical
  let host : DnsName := ⟨"www.example.com".toList, by decide, by decide⟩
  let site : DnsName := ⟨"example.com".toList, by decide, by decide⟩
  let top : DnsName := ⟨"com".toList, by decide, by decide⟩
  have hread : ofText? "WWW.EXAMPLE.COM" = some host := by decide
  have hancestors : host.ancestors = [site, top] := by decide
  have hsite : ascend? 1 host = some site := by
    rw [← habove, hancestors]
    rfl
  obtain ⟨_, hform, hagain⟩ := hcanonical _ _ _ _ hread hsite
  have hsmall : ofText? "www.example.com" = some host := by
    rw [← hread]
    apply hcase
    rw [← String.toList_inj, toList_toLower, toList_toLower]
    decide
  exact ⟨host, site, top, hread, hsmall, hsite, hancestors, hform, hagain, rfl⟩

end TrustPath.DnsName
