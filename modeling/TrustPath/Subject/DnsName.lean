import TrustPath.Text.Ascii

/-!
Host names, host name patterns with a wildcard, and the domains that contain a
host name.
-/

namespace TrustPath

namespace DnsName

/-- Lowercase ASCII letters; other characters stay as they are. -/
def lower (cs : List Char) : List Char :=
  cs.map Char.toLower

/-- Splits at every dot. -/
def splitLabels : List Char → List (List Char)
  | [] => [[]]
  | c :: rest =>
    match c, splitLabels rest with
    | '.', labels => [] :: labels
    | c, label :: labels => (c :: label) :: labels
    | c, [] => [[c]]

/-- A label has one to sixty-three ASCII letters, digits, hyphens and
underscores, and neither begins nor ends with a hyphen. -/
def isLabel (label : List Char) : Bool :=
  label ≠ [] && label.length ≤ 63 && label.head? ≠ some '-' && label.getLast? ≠
    some '-' && label.all fun c => c.isAlphanum || c = '-' || c = '_'

/-- A host name has at most 253 characters and is made of labels. -/
def isHostName (cs : List Char) : Bool :=
  cs ≠ [] && cs.length ≤ 253 && (splitLabels cs).all isLabel

def afterDot? : List Char → Option (List Char)
  | [] => none
  | c :: rest => if c = '.' then some rest else afterDot? rest

/-- What follows each dot, from the first dot on. -/
def afterDots : List Char → List (List Char)
  | [] => []
  | c :: rest => if c = '.' then rest :: afterDots rest else afterDots rest

/-- A host name in lower case. -/
structure IsNormal (cs : List Char) : Prop where
  hostName : isHostName cs = true
  lower_eq : lower cs = cs

theorem lower_lower (cs : List Char) : lower (lower cs) = lower cs := by
  rw [lower, lower, List.map_map]
  exact List.map_congr_left fun c _ => Ascii.toLower_toLower c

theorem splitLabels_ne_nil (cs : List Char) : splitLabels cs ≠ [] := by
  cases cs with
  | nil => simp [splitLabels]
  | cons c rest =>
      unfold splitLabels
      split <;> simp

theorem splitLabels_dot (rest : List Char) :
    splitLabels ('.' :: rest) = [] :: splitLabels rest := rfl

/-- Any other character goes in front of the first label. -/
theorem splitLabels_cons {c : Char} (hc : c ≠ '.') {rest label : List Char}
    {labels : List (List Char)} (hrest : splitLabels rest = label :: labels) :
    splitLabels (c :: rest) = (c :: label) :: labels := by
  unfold splitLabels
  rw [hrest]
  split
  · exact absurd rfl hc
  next heq =>
    cases heq
    rfl
  next heq => cases heq

theorem splitLabels_lower (cs : List Char) :
    splitLabels (lower cs) = (splitLabels cs).map lower := by
  induction cs with
  | nil => rfl
  | cons c rest ih =>
      by_cases hc : c = '.'
      · subst hc
        change splitLabels ('.' :: lower rest) = _
        rw [splitLabels_dot, splitLabels_dot, ih]
        rfl
      · obtain ⟨label, labels, hrest⟩ :=
          List.exists_cons_of_ne_nil (splitLabels_ne_nil rest)
        have hlower : c.toLower ≠ '.' :=
          mt (Ascii.toLower_eq_iff (by decide)).mp hc
        rw [hrest] at ih
        change splitLabels (c.toLower :: lower rest) = _
        rw [splitLabels_cons hc hrest, splitLabels_cons hlower ih]
        rfl

theorem isLabel_lower (label : List Char) :
    isLabel (lower label) = isLabel label := by
  have hhyphen : ∀ c : Char, c.toLower = '-' ↔ c = '-' :=
    fun c => Ascii.toLower_eq_iff (by decide)
  have hunderscore : ∀ c : Char, c.toLower = '_' ↔ c = '_' :=
    fun c => Ascii.toLower_eq_iff (by decide)
  simp [isLabel, lower, Function.comp_def, Ascii.isAlphanum_toLower, hhyphen,
    hunderscore]

theorem isHostName_lower (cs : List Char) :
    isHostName (lower cs) = isHostName cs := by
  have hlabels : (splitLabels (lower cs)).all isLabel =
      (splitLabels cs).all isLabel := by
    rw [splitLabels_lower, List.all_map]
    exact congrArg (splitLabels cs).all (funext isLabel_lower)
  rw [isHostName, isHostName, hlabels]
  simp [lower]

theorem splitLabels_append_dot (front rest : List Char) :
    splitLabels (front ++ '.' :: rest) = splitLabels front ++
      splitLabels rest := by
  induction front with
  | nil => rfl
  | cons c front ih =>
      by_cases hc : c = '.'
      · subst hc
        rw [List.cons_append, splitLabels_dot, splitLabels_dot, ih,
          List.cons_append]
      · obtain ⟨label, labels, hfront⟩ :=
          List.exists_cons_of_ne_nil (splitLabels_ne_nil front)
        rw [hfront, List.cons_append] at ih
        rw [List.cons_append, splitLabels_cons hc hfront,
          splitLabels_cons hc ih, List.cons_append]

theorem exists_of_afterDot? {cs rest : List Char}
    (hrest : afterDot? cs = some rest) :
    ∃ label, '.' ∉ label ∧ cs = label ++ '.' :: rest := by
  induction cs with
  | nil => simp [afterDot?] at hrest
  | cons c tail ih =>
      rw [afterDot?] at hrest
      split at hrest
      next hc =>
        cases hrest
        exact ⟨[], List.not_mem_nil, by rw [hc, List.nil_append]⟩
      next hc =>
        obtain ⟨label, hlabel, htail⟩ := ih hrest
        refine ⟨c :: label, ?_, by rw [htail, List.cons_append]⟩
        simp [hlabel, Ne.symm hc]

theorem exists_of_mem_afterDots {cs rest : List Char}
    (hrest : rest ∈ afterDots cs) : ∃ front, cs = front ++ '.' :: rest := by
  induction cs with
  | nil => simp [afterDots] at hrest
  | cons c tail ih =>
      have hlater (hmem : rest ∈ afterDots tail) : ∃ front,
          c :: tail = front ++ '.' :: rest := by
        obtain ⟨front, htail⟩ := ih hmem
        exact ⟨c :: front, by rw [htail, List.cons_append]⟩
      rw [afterDots] at hrest
      split at hrest
      next hc =>
        rcases List.mem_cons.mp hrest with rfl | hmem
        · exact ⟨[], by rw [hc, List.nil_append]⟩
        · exact hlater hmem
      next => exact hlater hrest

/-- Every host name is normal once it is in lower case. -/
theorem isNormal_lower {cs : List Char} (hcs : isHostName cs = true) :
    IsNormal (lower cs) where
  hostName := by rw [isHostName_lower, hcs]
  lower_eq := lower_lower cs

/-- What follows a dot of a host name is a host name. -/
theorem IsNormal.of_append_dot {front rest : List Char}
    (hnormal : IsNormal (front ++ '.' :: rest)) : IsNormal rest where
  hostName := by
    have hname := hnormal.hostName
    rw [isHostName, splitLabels_append_dot, List.all_append] at hname
    simp only [List.length_append, List.length_cons, Bool.and_eq_true,
      decide_eq_true_eq] at hname
    obtain ⟨⟨_, hlength⟩, _, hlabels⟩ := hname
    have hne : rest ≠ [] := by
      rintro rfl
      simp [splitLabels, isLabel] at hlabels
    simp [isHostName, hne, hlabels]
    omega
  lower_eq := by
    have hlower := hnormal.lower_eq
    rw [lower, List.map_append, List.map_cons] at hlower
    have htail := (List.append_inj hlower (List.length_map _)).2
    exact (List.cons.inj htail).2

end DnsName

/-- A host name in lower case: labels joined by dots. -/
structure DnsName where
  chars : List Char
  isNormal : DnsName.IsNormal chars
deriving DecidableEq

namespace DnsName

def ofChars? (cs : List Char) : Option DnsName :=
  if h : isHostName cs then some ⟨lower cs, isNormal_lower h⟩ else none

def ofText? (text : String) : Option DnsName :=
  ofChars? text.toList

def text (name : DnsName) : String :=
  String.ofList name.chars

theorem isNormal_of_afterDot? (name : DnsName) {rest : List Char}
    (hrest : afterDot? name.chars = some rest) : IsNormal rest := by
  obtain ⟨label, _, hchars⟩ := exists_of_afterDot? hrest
  exact (hchars ▸ name.isNormal).of_append_dot

theorem isNormal_of_mem_afterDots (name : DnsName) {rest : List Char}
    (hrest : rest ∈ afterDots name.chars) : IsNormal rest := by
  obtain ⟨front, hchars⟩ := exists_of_mem_afterDots hrest
  exact (hchars ▸ name.isNormal).of_append_dot

/-- The name without its first label, unless that is the only one. -/
def parent? (name : DnsName) : Option DnsName :=
  (afterDot? name.chars).pmap DnsName.mk fun _ hrest =>
    name.isNormal_of_afterDot? hrest

/-- The names that are reached by leaving out first labels, from the nearest
on. -/
def ancestors (name : DnsName) : List DnsName :=
  (afterDots name.chars).pmap DnsName.mk fun _ hrest =>
    name.isNormal_of_mem_afterDots hrest

/-- Whether a constraint covers the name. It may be written in any letter case
and may be any text: an empty one covers every name, one with a leading dot the
names below it, and any other one the name itself and the names below it. -/
def isWithin (name : DnsName) (constraint : List Char) : Bool :=
  match lower constraint with
  | [] => true
  | '.' :: domain =>
    domain ≠ [] && domain.length + 1 < name.chars.length &&
      ('.' :: domain).isSuffixOf name.chars
  | domain => name.chars = domain || ('.' :: domain).isSuffixOf name.chars

end DnsName

/-- A host name as a certificate may give it: one name, or all names one label
below a parent. -/
inductive DnsPattern where
  | exact (name : DnsName)
  | wildcard (parent : DnsName)
deriving DecidableEq

namespace DnsPattern

/-- Reads a pattern; an asterisk may stand only for the whole first label. -/
def ofChars? : List Char → Option DnsPattern
  | '*' :: '.' :: parent => (DnsName.ofChars? parent).map wildcard
  | cs => (DnsName.ofChars? cs).map exact

def ofText? (text : String) : Option DnsPattern :=
  ofChars? text.toList

def isMatch (pattern : DnsPattern) (name : DnsName) : Bool :=
  match pattern with
  | exact other => other = name
  | wildcard parent => name.parent? = some parent

end DnsPattern

end TrustPath
