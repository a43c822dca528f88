import TrustPath.Proofs.ChainFamily
import TrustPath.Proofs.ExtensionRules

/-!
What a list of rules decides. It accepts the certificates of which every rule
holds, so the order of the rules does not count; and when it refuses one, the
first rule that does not hold is to blame.
-/

namespace TrustPath

/-- Rules accept exactly the certificates of which all of them hold, in whatever
order they are listed and whatever else a rule says that forbids its extension.
A failure names the extension of the first rule that does not hold, and its
reason is the certificate's only if the extension stands there twice. -/
theorem rules_decide (rules : ExtensionPolicy) (policy : Policy)
    (c : EncodedCertificate) :
    (rules.check policy c = .ok () ↔ ∀ rule ∈ rules.rules,
      rule.Holds policy c) ∧
    (∀ others : ExtensionPolicy, others.rules.Perm rules.rules →
      (others.check policy c = .ok () ↔ rules.check policy c = .ok ())) ∧
    ExtensionPolicy.check ⟨rules.rules.map ExtensionRule.normalized⟩ policy c =
      rules.check policy c ∧
    ∀ e, rules.check policy c = .error e →
      ∃ before rule after, rules.rules = before ++ rule :: after ∧
        (∀ other ∈ before, other.Holds policy c) ∧ ¬ rule.Holds policy c ∧
          rule.Blames c e := by
  refine ⟨ExtensionPolicy.check_eq_ok_iff, ?_,
    ExtensionPolicy.checkAll_normalized _ _ _, ?_⟩
  · intro others hperm
    rw [ExtensionPolicy.check_eq_ok_iff, ExtensionPolicy.check_eq_ok_iff]
    exact forall_congr' fun rule => imp_congr_left hperm.mem_iff
  · intro e hfails
    obtain ⟨before, rule, after, hsplit, hbefore, hblamed⟩ :=
      (ExtensionPolicy.checksEach_checkAll policy c).eq_error hfails
    refine ⟨before, rule, after, hsplit, ?_, ?_,
      ExtensionRule.blames_of_check hblamed⟩
    · intro other hother
      exact ExtensionRule.check_eq_ok_iff.mp (hbefore other hother)
    · intro hholds
      rw [ExtensionRule.check_eq_ok_iff.mpr hholds] at hblamed
      cases hblamed

open ChainFamily in
/-- The rules of the public web do not hold of an authority without a list of
the uses of its key. The rule to blame is the one that asks for the list, with
others after it. -/
theorem authority_lacks_keyUsage :
    ∃ before rule after,
      ExtensionPolicy.WebPki.authorities.rules = before ++ rule :: after ∧
      (∀ other ∈ before,
        other.Holds (client 2).inner.policy (authority 2 0)) ∧
      ¬ rule.Holds (client 2).inner.policy (authority 2 0) ∧
      rule.id = .keyUsage := by
  have hfails : ExtensionPolicy.WebPki.authorities.check (client 2).inner.policy
      (authority 2 0) = .error (.rejectedFor .extensionPolicyViolation .keyUsage
        "CN=000: required extension is absent") := by
    decide +kernel
  obtain ⟨_, _, _, hblames⟩ :=
    rules_decide ExtensionPolicy.WebPki.authorities (client 2).inner.policy
      (authority 2 0)
  obtain ⟨before, rule, after, hsplit, hbefore, hbroken, message, hmessage⟩ :=
    hblames _ hfails
  refine ⟨before, rule, after, hsplit, hbefore, hbroken, ?_⟩
  injection hmessage with hrejection
  injection hrejection with _ hid
  exact (Option.some.inj hid).symm

end TrustPath
