import TrustPath.Signature.Check

/-!
Whose answer an environment gives. It accepts a signature exactly if one of
its checkers does, wherever that one stands; if none does, the last one has
the say, and without checkers nothing is accepted. Every checker is handed
the environment, and one that asks it back can tell in which order the
checkers stand. So what is said of another order, or of further checkers, is
said of the same environment in hand, or of checkers that answer alike with
either one.
-/

namespace TrustPath.SignatureEnvironment

/-! ### One checker after the other -/

section Asking

variable {run : RegisteredChecker → SignatureCheck.Outcome} {last e : Failure}
  {checker : RegisteredChecker} {rest checkers : List RegisteredChecker}

theorem value_ask_cons_of_ok (haccepts : (run checker).value = .ok ()) :
    (ask run last (checker :: rest)).value = .ok () := by
  rw [ask]
  split
  next => rfl
  next hasked =>
    rw [hasked] at haccepts
    cases haccepts

theorem value_ask_cons_of_error (hrefuses : (run checker).value = .error e) :
    (ask run last (checker :: rest)).value = (ask run e rest).value := by
  rw [ask]
  split
  next hasked =>
    rw [hasked] at hrefuses
    cases hrefuses
  next hasked =>
    rw [hasked] at hrefuses
    cases hrefuses
    rfl

theorem exists_error_of_ne_ok {value : Except Failure Unit}
    (hvalue : value ≠ .ok ()) : ∃ e, value = .error e := by
  cases value with
  | ok => exact absurd rfl hvalue
  | error e => exact ⟨e, rfl⟩

theorem value_ask_eq_ok_iff :
    (ask run last checkers).value = .ok () ↔
      ∃ checker ∈ checkers, (run checker).value = .ok () := by
  induction checkers generalizing last with
  | nil => simp [ask, Logged.quiet]
  | cons checker rest ih =>
      by_cases haccepts : (run checker).value = .ok ()
      · simp [value_ask_cons_of_ok haccepts, haccepts]
      · obtain ⟨e, hrefuses⟩ := exists_error_of_ne_ok haccepts
        rw [value_ask_cons_of_error hrefuses, ih]
        simp [hrefuses]

/-- If nobody accepts, the answer is the last one's; with nobody there, it is
the failure handed in. -/
theorem value_ask_of_refused
    (hrefused : ∀ checker ∈ checkers, (run checker).value ≠ .ok ()) :
    (ask run last checkers).value =
      (checkers.getLast?.map fun checker => (run checker).value).getD
        (.error last) := by
  induction checkers generalizing last with
  | nil => rfl
  | cons checker rest ih =>
      obtain ⟨e, hrefuses⟩ :=
        exists_error_of_ne_ok (hrefused checker List.mem_cons_self)
      have hothers : ∀ other ∈ rest, (run other).value ≠ .ok () :=
        fun other hother => hrefused other (List.mem_cons_of_mem checker hother)
      rw [value_ask_cons_of_error hrefuses, ih hothers, List.getLast?_cons]
      -- the failure handed on counts only if this checker was the last
      cases rest.getLast? with
      | none => simp [hrefuses]
      | some other => rfl

end Asking

/-! ### Addresses -/

variable {environment : SignatureEnvironment} {address : Nat}

/-- The addresses in use lie below the free one. -/
theorem lt_freeAddress (hused : address ∈ environment.addresses) :
    address < environment.freeAddress := by
  rw [freeAddress]
  generalize environment.addresses = addresses at hused ⊢
  induction addresses with
  | nil => cases hused
  | cons first rest ih =>
      rw [List.foldr_cons]
      rcases List.mem_cons.mp hused with rfl | hrest
      · exact Nat.le_max_left _ _
      · exact Nat.le_trans (ih hrest) (Nat.le_max_right _ _)

theorem addresses_add (checker : SignatureChecker) :
    (environment.add checker).addresses =
      environment.addresses ++ [environment.freeAddress] := by
  rw [addresses, add, register, List.map_append, List.map_singleton, addresses]

/-- A function that is added stands apart from the others. -/
theorem nodup_addresses_add (checker : SignatureChecker)
    (hnodup : environment.addresses.Nodup) :
    (environment.add checker).addresses.Nodup := by
  rw [addresses_add, List.nodup_append]
  refine ⟨hnodup, by simp, ?_⟩
  intro address hused free hfree
  rw [List.mem_singleton.mp hfree]
  exact Nat.ne_of_lt (lt_freeAddress hused)

/-! ### The environment's answer -/

variable {other : SignatureEnvironment} {handed : List Nat}
  {checkers others : List RegisteredChecker} {message signature : Bytes}
  {algorithm : AlgorithmIdentifier} {key : PublicKey}

/-- Whatever they are handed, functions accept if one of them does. -/
theorem value_askHanding_eq_ok_iff :
    (askHanding handed checkers message signature algorithm key).value =
        .ok () ↔
      ∃ checker ∈ checkers,
        (checker.run handed message signature algorithm key).value =
          .ok () := by
  rw [askHanding]
  exact value_ask_eq_ok_iff

/-- Functions together accept what some of them accept. -/
theorem value_askHanding_append_eq_ok_iff :
    (askHanding handed (checkers ++ others) message signature algorithm
        key).value = .ok () ↔
      (askHanding handed checkers message signature algorithm key).value =
          .ok () ∨
        (askHanding handed others message signature algorithm key).value =
          .ok () := by
  simp only [value_askHanding_eq_ok_iff, List.mem_append, or_and_right,
    exists_or]

/-- About a signature, the checkers of an environment answer the same if they
are handed the functions at some addresses instead. Those that make nothing of
the environment in hand do, whatever they are handed. -/
def AnswersAlike (environment : SignatureEnvironment) (handed : List Nat)
    (message signature : Bytes) (algorithm : AlgorithmIdentifier)
    (key : PublicKey) : Prop :=
  ∀ checker ∈ environment.checkers,
    (checker.run handed message signature algorithm key).value =
      (checker.run environment.addresses message signature algorithm key).value

theorem AnswersAlike.value_askHanding_eq_ok_iff
    (halike : environment.AnswersAlike handed message signature algorithm key) :
    (askHanding handed environment.checkers message signature algorithm
        key).value = .ok () ↔
      (environment.verify message signature algorithm key).value = .ok () := by
  rw [verify, SignatureEnvironment.value_askHanding_eq_ok_iff,
    SignatureEnvironment.value_askHanding_eq_ok_iff]
  apply exists_congr
  intro checker
  apply and_congr_right
  intro hchecker
  rw [halike checker hchecker]

/-- With a checker added that makes nothing of the environment in hand, what it
accepts is accepted, beside what was before. -/
theorem AnswersAlike.verify_add_eq_ok_iff {checker : SignatureChecker}
    (halike : environment.AnswersAlike (environment.add checker).addresses
      message signature algorithm key) :
    ((environment.add checker).verify message signature algorithm key).value =
        .ok () ↔
      (environment.verify message signature algorithm key).value = .ok () ∨
        (checker message signature algorithm key).value = .ok () := by
  rw [← halike.value_askHanding_eq_ok_iff, verify]
  refine value_askHanding_append_eq_ok_iff.trans (or_congr_right ?_)
  simp only [SignatureEnvironment.value_askHanding_eq_ok_iff,
    List.mem_singleton, exists_eq_left]

namespace AskingBack

/-- The message about which the environment in hand is asked. -/
def probe : Bytes := [0]

/-- Of the messages other than the probe, this function accepts all if the
function that was registered last is itself. -/
def asking : RegisteredChecker :=
  ⟨0, fun handed message _ _ _ =>
    .quiet (if message ≠ probe ∧ handed.getLast? = some 0 then .ok ()
      else .error (.misconfigured .invalidSettings))⟩

def refusing (address : Nat) : RegisteredChecker :=
  ⟨address, fun _ _ _ _ _ =>
    .quiet (.error (.misconfigured .missingTrustStore))⟩

/-- The functions of a program, in the order of their addresses. -/
def program : Nat → RegisteredChecker
  | 0 => asking
  | n + 1 => refusing (n + 1)

theorem address_program (n : Nat) : (program n).address = n := by
  cases n with
  | zero => rfl
  | succ n => rfl

theorem addresses_program (handed : List Nat) :
    addresses ⟨handed.map program⟩ = handed := by
  rw [addresses, List.map_map]
  calc
    handed.map ((·.address) ∘ program) = handed.map id :=
      List.map_congr_left fun n _ => address_program n
    _ = handed := List.map_id handed

theorem program_refuses_probe (n : Nat) :
    ((program n).run handed probe signature algorithm key).value =
      .error (.misconfigured
        (if n = 0 then .invalidSettings else .missingTrustStore)) := by
  cases n with
  | zero => rfl
  | succ n => rfl

/-- It is told so by the environment in hand: the function accepts if that one,
asked about the probe, fails in the function's own way. -/
theorem asking_accepts_iff (hmessage : message ≠ probe) :
    (asking.run handed message signature algorithm key).value = .ok () ↔
      (verify ⟨handed.map program⟩ probe signature algorithm key).value =
        .error (.misconfigured .invalidSettings) := by
  have hrefused : ∀ checker ∈ handed.map program,
      (checker.run handed probe signature algorithm key).value ≠ .ok () := by
    intro checker hchecker
    obtain ⟨n, _, rfl⟩ := List.mem_map.mp hchecker
    rw [program_refuses_probe]
    nofun
  rw [verify, addresses_program, askHanding, value_ask_of_refused hrefused,
    List.getLast?_map]
  cases hlast : handed.getLast? with
  | none => simp [asking, hlast, Logged.quiet, Failure.rejectedAs]
  | some n =>
      rw [Option.map_some, Option.map_some, Option.getD_some,
        program_refuses_probe]
      cases n with
      | zero => simp [asking, hlast, hmessage, Logged.quiet]
      | succ n => simp [asking, hlast, Logged.quiet]

/-- Such a function tells the order of the checkers, and takes an acceptance
back when another function is added. -/
theorem verdict_depends_on_order (hmessage : message ≠ probe) :
    (verify ⟨[asking]⟩ message signature algorithm key).value = .ok () ∧
      (verify ⟨[refusing 1, asking]⟩ message signature algorithm key).value =
        .ok () ∧
      (verify ⟨[asking, refusing 1]⟩ message signature algorithm key).value =
        .error (.misconfigured .missingTrustStore) := by
  refine ⟨?_, ?_, ?_⟩
  · simp [verify, askHanding, ask, addresses, asking, Logged.quiet, hmessage]
  · simp [verify, askHanding, ask, addresses, asking, refusing, Logged.quiet,
      hmessage]
  · simp [verify, askHanding, ask, addresses, asking, refusing, Logged.quiet]

end AskingBack

end TrustPath.SignatureEnvironment
