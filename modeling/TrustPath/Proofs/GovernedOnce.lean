import Mathlib.Data.List.Induction
import Mathlib.Data.List.Nodup
import TrustPath.ExtensionPolicy.WebPki
import TrustPath.Proofs.Checks

/-!
One rule for each extension. Rules are added one after the other, by hand or
from tables, and the first that is for an extension which has a rule already
ends the making of the policy and is the one to blame. If there is none the
policy has just these rules, in order.
-/

namespace TrustPath

theorem ExtensionRule.id_normalized (rule : ExtensionRule) :
    rule.normalized.id = rule.id := by
  rw [normalized]
  split
  · rfl
  · rfl

namespace ExtensionPolicy

variable {policy : ExtensionPolicy} {rule : ExtensionRule}
  {rows : List ExtensionRule} {id : Oid}

/-- The extensions that some rules are for. -/
def governed (rows : List ExtensionRule) : List Oid :=
  rows.map (·.id)

theorem governed_append (rows others : List ExtensionRule) :
    governed (rows ++ others) = governed rows ++ governed others :=
  List.map_append

/-- Rules without what does not count are for the same extensions. -/
theorem governed_normalized (rows : List ExtensionRule) :
    governed (rows.map ExtensionRule.normalized) = governed rows := by
  rw [governed, List.map_map, governed]
  exact List.map_congr_left fun rule _ => rule.id_normalized

theorem rule?_eq_none_iff : policy.rule? id = none ↔
      id ∉ governed policy.rules := by
  rw [rule?, List.find?_eq_none, governed, List.mem_map, not_exists]
  simp only [decide_eq_true_iff, not_and]

theorem of_rule?_eq_some (hfound : policy.rule? id = some rule) :
    rule ∈ policy.rules ∧ rule.id = id := by
  have hsame := List.find?_some hfound
  exact ⟨List.mem_of_find?_eq_some hfound, of_decide_eq_true hsame⟩

/-- Where every extension has one rule, the rule that is found is the one for
the extension. -/
theorem rule?_eq_some_iff (honce : (governed policy.rules).Nodup) :
    policy.rule? id = some rule ↔ rule ∈ policy.rules ∧ rule.id = id := by
  refine ⟨of_rule?_eq_some, ?_⟩
  rintro ⟨hrule, rfl⟩
  cases hfound : policy.rule? rule.id with
  | none =>
      exact absurd (List.mem_map_of_mem hrule) (rule?_eq_none_iff.mp hfound)
  | some other =>
      obtain ⟨hother, hsame⟩ := of_rule?_eq_some hfound
      rw [List.inj_on_of_nodup_map honce hother hrule hsame]

/-! ### Adding rules -/

theorem add_new (hnew : rule.id ∉ governed policy.rules) :
    policy.add rule = .ok ⟨policy.rules ++ [rule]⟩ := by
  rw [add, rule?_eq_none_iff.mpr hnew]
  rfl

theorem add_repeated (hrepeated : rule.id ∈ governed policy.rules) :
    policy.add rule = .error
      (.misconfigured (.duplicateExtensionRule rule.id)) := by
  rw [add, if_pos]
  rw [Option.isSome_iff_ne_none]
  exact fun hnone => rule?_eq_none_iff.mp hnone hrepeated

theorem addAll_append (policy : ExtensionPolicy)
    (rows others : List ExtensionRule) :
    policy.addAll (rows ++ others) = policy.addAll rows >>= fun made =>
      made.addAll others := by
  induction rows generalizing policy with
  | nil => rfl
  | cons rule rest ih =>
      rw [List.cons_append, addAll, addAll]
      cases policy.add rule with
      | error e => rfl
      | ok made => exact ih made

/-- Rules for different extensions are all added, in order. -/
theorem addAll_of_nodup (honce : (governed (policy.rules ++ rows)).Nodup) :
    policy.addAll rows = .ok ⟨policy.rules ++ rows⟩ := by
  induction rows generalizing policy with
  | nil => rw [addAll, List.append_nil]
  | cons rule rest ih =>
      have hnew : rule.id ∉ governed policy.rules := by
        rw [governed_append] at honce
        exact fun hmem => (List.nodup_append.mp honce).2.2 _ hmem _
          List.mem_cons_self rfl
      have hsplit : policy.rules ++ rule :: rest = (policy.rules ++ [rule]) ++
          rest := by simp
      rw [hsplit] at honce ⊢
      rw [addAll, add_new hnew]
      exact ih honce

/-- The first identifier, in order, that occurs before its place already. -/
def IsFirstRepeated (ids : List Oid) (id : Oid) : Prop :=
  ∃ before after, ids = before ++ id :: after ∧ before.Nodup ∧ id ∈ before

/-- The first repetition is refused, whatever comes after it. -/
theorem addAll_of_isFirstRepeated
    (hfirst : IsFirstRepeated (governed rows) id) :
    permitAll.addAll rows =
      .error (.misconfigured (.duplicateExtensionRule id)) := by
  obtain ⟨ids, others, hids, honce, hrepeated⟩ := hfirst
  obtain ⟨before, rest, rfl, rfl, hrest⟩ := List.map_eq_append_iff.mp hids
  obtain ⟨row, after, rfl, rfl, rfl⟩ := List.map_eq_cons_iff.mp hrest
  have hmade : permitAll.addAll before = .ok ⟨before⟩ := addAll_of_nodup honce
  have hrefused : add ⟨before⟩ row =
      .error (.misconfigured (.duplicateExtensionRule row.id)) :=
    add_repeated hrepeated
  rw [addAll_append, hmade, bind_eq_error_iff]
  refine Or.inr ⟨_, rfl, ?_⟩
  rw [addAll, hrefused]
  rfl

/-- Where an identifier occurs twice, there is a first repetition. -/
theorem exists_isFirstRepeated {ids : List Oid} (htwice : ¬ ids.Nodup) :
    ∃ id, IsFirstRepeated ids id := by
  induction ids using List.reverseRecOn with
  | nil => exact absurd List.nodup_nil htwice
  | append_singleton ids id ih =>
      by_cases honce : ids.Nodup
      · refine ⟨id, ids, [], rfl, honce, Classical.byContradiction fun hnew =>
          htwice ?_⟩
        exact List.concat_eq_append ▸ honce.concat hnew
      · obtain ⟨first, before, after, rfl, hbefore⟩ := ih honce
        exact ⟨first, before, after ++ [id], by simp, hbefore⟩

/-- Rules added by hand count without what does not count of them. -/
theorem foldlM_govern (policy : ExtensionPolicy) (rows : List ExtensionRule) :
    rows.foldlM govern policy =
      policy.addAll (rows.map ExtensionRule.normalized) := by
  induction rows generalizing policy with
  | nil => rfl
  | cons rule rest ih =>
      rw [List.foldlM_cons, List.map_cons, addAll, govern]
      cases policy.add rule.normalized with
      | error e => rfl
      | ok made => exact ih made

/-- Tables count as one table of all their rows: what ends a table ends all. -/
theorem addTables_eq (policy : ExtensionPolicy)
    (tables : List (List ExtensionRule)) :
    policy.addTables tables = policy.addAll tables.flatten := by
  induction tables generalizing policy with
  | nil => rfl
  | cons table rest ih =>
      rw [addTables, List.flatten_cons, addAll_append]
      cases policy.addAll table with
      | error e => rfl
      | ok made => exact ih made

/-! ### Policies made of rows -/

/-- A policy made of rules for some extensions, or the failure to make one. -/
structure IsMadeOf (result : Except Failure ExtensionPolicy) (ids : List Oid)
    (rules : List ExtensionRule) : Prop where
  /-- There is a policy if no extension is there twice, and it has just the
  rules, in order. -/
  ok_iff : ∀ policy, result = .ok policy ↔ ids.Nodup ∧ policy.rules = rules
  rule_iff : ∀ policy, result = .ok policy →
    ∀ id rule, policy.rule? id = some rule ↔ rule ∈ rules ∧ rule.id = id
  no_rule_iff : ∀ policy, result = .ok policy → ∀ id, policy.rule? id = none ↔
    id ∉ ids
  error_iff : ∀ e, result = .error e ↔
    ∃ id, IsFirstRepeated ids id ∧
    e = .misconfigured (.duplicateExtensionRule id)

theorem isMadeOf_addAll (rows : List ExtensionRule) :
    IsMadeOf (permitAll.addAll rows) (governed rows) rows := by
  by_cases honce : (governed rows).Nodup
  · have hmade : permitAll.addAll rows = .ok ⟨rows⟩ := addAll_of_nodup honce
    rw [hmade]
    refine ⟨?_, ?_, ?_, ?_⟩
    · rintro ⟨rules⟩
      rw [Except.ok.injEq, mk.injEq, and_iff_right honce, eq_comm]
    · rintro _ ⟨⟩ id rule
      exact rule?_eq_some_iff honce
    · rintro _ ⟨⟩ id
      exact rule?_eq_none_iff
    · intro e
      refine ⟨nofun, ?_⟩
      rintro ⟨id, hfirst, _⟩
      rw [addAll_of_isFirstRepeated hfirst] at hmade
      cases hmade
  · obtain ⟨id, hfirst⟩ := exists_isFirstRepeated honce
    have hrefused := addAll_of_isFirstRepeated hfirst
    rw [hrefused]
    refine ⟨?_, nofun, nofun, ?_⟩
    · intro policy
      exact ⟨nofun, fun hboth => absurd hboth.1 honce⟩
    · intro e
      constructor
      · intro he
        exact ⟨id, hfirst, (Except.error.inj he).symm⟩
      · rintro ⟨other, hother, rfl⟩
        rw [← hrefused, addAll_of_isFirstRepeated hother]

/-- However a policy is made, it has one rule for each extension: by hand, where
nothing but the identifier is taken over from a row for an absent extension, and
the other rows are taken as they are; from tables, whose rows count one table
after the other; and in the policies that come with the library. -/
theorem policies_govern_once (rows : List ExtensionRule)
    (tables : List (List ExtensionRule)) :
    IsMadeOf (rows.foldlM govern permitAll) (governed rows)
        (rows.map fun row =>
          if row.disposition = .notPresent
          then ⟨row.id, .notPresent, .agnostic, none⟩ else row) ∧
      IsMadeOf (ofTables tables) (governed tables.flatten) tables.flatten ∧
      (governed WebPki.authorities.rules).Nodup ∧
      (governed WebPki.servers.rules).Nodup ∧
      (governed WebPki.clients.rules).Nodup := by
  refine ⟨?_, ?_, by decide, by decide, by decide⟩
  · rw [foldlM_govern, ← governed_normalized]
    exact isMadeOf_addAll (rows.map ExtensionRule.normalized)
  · rw [ofTables, addTables_eq]
    exact isMadeOf_addAll tables.flatten

/-- The rules for authorities taken twice. -/
example : ofTables [WebPki.authorityRules, WebPki.authorityRules] =
    .error (.misconfigured (.duplicateExtensionRule .authorityKeyIdentifier)) :=
  rfl

end ExtensionPolicy

end TrustPath
