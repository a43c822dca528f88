import Mathlib.Data.List.Forall2
import TrustPath.Json
import TrustPath.Proofs.JsonTokens

/-!
Values as they are written. Octets write a value with some property when a
reader that awaits a value gets through just them with such a value, whatever is
around it and whatever follows. Numbers, texts and null are written so, and so
are objects whose members are. A record is read out of such an object if no key
is repeated.
-/

namespace TrustPath.Json

open Progress

/-- Octets write a value of which something holds, before whatever ends a
number. -/
def Writes (octets : Bytes) (holds : Json → Prop) : Prop :=
  ∀ offset around rest, EndsNumber rest → ∃ value stop, holds value ∧
    (awaitsValue around).run (lexemesFrom offset 0 (octets ++ rest)) =
      (close value around).run (lexemesFrom stop 0 rest)

theorem run_cons {p q : Progress} {l : Lexeme} (hstep : p.step l = .ok q)
    (rest : List Lexeme) : p.run (l :: rest) = q.run rest := by
  rw [run, hstep]
  rfl

namespace Writes

variable {octets : Bytes} {holds more : Json → Prop} {token : Token}

theorem mono (hwrites : Writes octets holds)
    (hmore : ∀ value, holds value → more value) : Writes octets more := by
  intro offset around rest hrest
  obtain ⟨value, stop, hvalue, hrun⟩ := hwrites offset around rest hrest
  exact ⟨value, stop, hmore value hvalue, hrun⟩

/-- A text that writes a value is read as such a value. -/
theorem ofBytes (hwrites : Writes octets holds) :
    ∃ value, ofBytes octets = .ok value ∧ holds value := by
  obtain ⟨value, stop, hvalue, hrun⟩ := hwrites 0 [] [] (by simp [EndsNumber])
  refine ⟨value, ?_, hvalue⟩
  rw [List.append_nil] at hrun
  rw [Json.ofBytes, lexemes, hrun]
  rfl

/-! ### Scalars -/

theorem scalar (hstep : ∀ around start stop,
    (awaitsValue around).step ⟨token, start, stop⟩ =
      .ok (close (.scalar ⟨token, start, stop⟩) around))
    (hwrites : ∀ rest, EndsNumber rest → WritesToken octets token rest) :
    Writes octets fun value => ∃ start stop,
      value = .scalar ⟨token, start, stop⟩ := by
  intro offset around rest hrest
  refine ⟨_, offset + octets.length, ⟨offset, offset + octets.length, rfl⟩, ?_⟩
  rw [hwrites rest hrest offset, run_cons (hstep around _ _)]

theorem null : Writes (Bytes.ofText "null") fun value =>
    ∃ start stop, value = .scalar ⟨.null, start, stop⟩ :=
  scalar (fun _ _ _ => rfl) fun rest _ => writesToken_null rest

theorem decimal {n : Nat} (hn : n < UInt64.size) :
    Writes (Bytes.ofText (toString n)) fun value =>
    ∃ start stop, value = .scalar ⟨.integer n, start, stop⟩ :=
  scalar (fun _ _ _ => rfl) fun _ hrest => writesToken_decimal hn hrest

theorem quoted (text : String) :
    Writes (Bytes.ofText (Json.quoted text)) fun value =>
    ∃ start stop, value = .scalar ⟨.text (some text), start, stop⟩ :=
  scalar (fun _ _ _ => rfl) fun rest _ => writesToken_quoted text rest

end Writes

/-! ### Objects -/

/-- A member of an object as it is written: its key, and octets that write its
value. -/
structure Member where
  key : String
  octets : Bytes
  holds : Json → Prop
  writes : Writes octets holds

namespace Member

def line (m : Member) : Bytes :=
  Bytes.ofText (quoted m.key) ++ 0x3a :: m.octets

/-- An entry of an object is one that a member writes. -/
def IsEntry (m : Member) (entry : Lexeme × Json) : Prop :=
  (∃ start stop, entry.1 = ⟨.text (some m.key), start, stop⟩) ∧ m.holds entry.2

end Member

def objectOctets (members : List Member) : Bytes :=
  0x7b :: [0x2c].intercalate (members.map Member.line) ++ [0x7d]

/-- A reader that awaits a key gets through a member to what may follow it. -/
theorem run_line (m : Member) (offset start : Nat) (done : List (Lexeme × Json))
    (around : List Frame) (rest : Bytes) (hrest : EndsNumber rest) :
    ∃ entry stop, m.IsEntry entry ∧
      (awaitsKey start done around).run
        (lexemesFrom offset 0 (m.line ++ rest)) =
        (afterMember start (entry :: done) around).run
          (lexemesFrom stop 0 rest) := by
  let key : Lexeme :=
    ⟨.text (some m.key), offset, offset + (Bytes.ofText (quoted m.key)).length⟩
  obtain ⟨value, stop, hvalue, hrun⟩ :=
    m.writes (key.stop + 1) (.member start done key :: around) rest hrest
  refine ⟨(key, value), stop, ⟨⟨_, _, rfl⟩, hvalue⟩, ?_⟩
  calc
    (awaitsKey start done around).run (lexemesFrom offset 0 (m.line ++ rest)) =
        (afterKey start done key around).run
          (lexemesFrom key.stop 0 (0x3a :: (m.octets ++ rest))) := by
      rw [Member.line, List.append_assoc, List.cons_append, writesToken_quoted,
        run_cons rfl]
    _ = (awaitsValue (.member start done key :: around)).run
          (lexemesFrom (key.stop + 1) 0 (m.octets ++ rest)) := by
      rw [lexemesFrom_sign 0x3a .colon rfl rfl, run_cons rfl]
    _ = (afterMember start ((key, value) :: done) around).run
      (lexemesFrom stop 0 rest) := hrun

/-- A reader that awaits a key gets through the members to the end of the
object. -/
theorem run_members (m : Member) (members : List Member) (offset start : Nat)
    (done : List (Lexeme × Json)) (around : List Frame) (rest : Bytes) :
    ∃ entries stop, List.Forall₂ Member.IsEntry (m :: members) entries ∧
      (awaitsKey start done around).run (lexemesFrom offset 0
          ([0x2c].intercalate ((m :: members).map Member.line) ++
            0x7d :: rest)) =
        (close (.object start (done.reverse ++ entries)) around).run
          (lexemesFrom stop 0 rest) := by
  induction members generalizing m offset done with
  | nil =>
      obtain ⟨entry, stop, hentry, hrun⟩ :=
        run_line m offset start done around _
          (endsNumber_cons (b := 0x7d) (by decide) rest)
      refine ⟨[entry], stop + 1, .cons hentry .nil, ?_⟩
      rw [List.map_singleton, List.intercalate_singleton, hrun,
        lexemesFrom_sign 0x7d .closeObject rfl rfl, run_cons rfl,
        List.reverse_cons]
  | cons next members ih =>
      obtain ⟨entry, stop, hentry, hrun⟩ :=
        run_line m offset start done around _
          (endsNumber_cons (b := 0x2c) (by decide)
          ([0x2c].intercalate ((next :: members).map Member.line) ++
            0x7d :: rest))
      obtain ⟨entries, stop', hentries, hrun'⟩ :=
        ih next (stop + 1) (entry :: done)
      refine ⟨entry :: entries, stop', .cons hentry hentries, ?_⟩
      rw [List.map_cons, List.map_cons, List.intercalate_cons_cons,
        ← List.map_cons, List.append_assoc,
        List.append_assoc, List.singleton_append, hrun,
          lexemesFrom_sign 0x2c .comma rfl rfl,
        run_cons rfl, hrun', List.reverse_cons, List.append_assoc,
          List.singleton_append]

/-- An object of members is read as one whose entries they write. -/
theorem Writes.object (members : List Member) :
    Writes (objectOctets members) fun value =>
    ∃ start entries, value = .object start entries ∧
      List.Forall₂ Member.IsEntry members entries := by
  intro offset around rest _
  rw [objectOctets, List.append_assoc, List.cons_append, List.singleton_append,
    lexemesFrom_sign 0x7b .openObject rfl rfl, run_cons rfl]
  cases members with
  | nil =>
      refine ⟨.object offset [], offset + 1 + 1, ⟨offset, [], rfl, .nil⟩, ?_⟩
      rw [List.map_nil, List.intercalate_nil, List.nil_append,
        lexemesFrom_sign 0x7d .closeObject rfl rfl, run_cons rfl]
  | cons m members =>
      obtain ⟨entries, stop, hentries, hrun⟩ :=
        run_members m members (offset + 1) offset [] around rest
      exact ⟨_, stop, ⟨offset, entries, rfl, hentries⟩, hrun⟩

/-! ### Records -/

section Record

variable {key : String} {value : Json} {fields : Fields}

theorem field?_cons (name : String) (held : Option Json) :
    field? key ((name, held) :: fields) = if key = name then held
      else field? key fields := by
  rw [field?, List.lookup_cons]
  by_cases hname : key = name
  · rw [if_pos hname, hname, beq_self_eq_true]
    rfl
  · rw [if_neg hname, beq_false_of_ne hname]
    rfl

/-- A field that holds nothing yet is filled, and the others hold what they
held. -/
theorem exists_put (stop : Nat) (value : Json)
    (hnone : field? key fields = none) :
    ∃ filled, put key stop value fields = .ok filled ∧
      filled.map Prod.fst = fields.map Prod.fst ∧
      (key ∈ fields.map Prod.fst → field? key filled = some value) ∧
      ∀ other, other ≠ key → field? other filled = field? other fields := by
  induction fields with
  | nil =>
      exact ⟨[], rfl, rfl, fun hkey => absurd hkey List.not_mem_nil,
        fun _ _ => rfl⟩
  | cons field fields ih =>
      obtain ⟨name, held⟩ := field
      rw [field?_cons] at hnone
      by_cases hname : name = key
      · subst hname
        rw [if_pos rfl] at hnone
        subst hnone
        refine ⟨(name, some value) :: fields, ?_, rfl, fun _ =>
          ?_, fun other hother => ?_⟩
        · rw [put.eq_def]
          exact if_pos rfl
        · rw [field?_cons, if_pos rfl]
        · rw [field?_cons, field?_cons, if_neg hother, if_neg hother]
      · rw [if_neg (Ne.symm hname)] at hnone
        obtain ⟨filled, hput, hnames, hkey, hothers⟩ := ih hnone
        refine ⟨(name, held) :: filled, ?_, ?_, fun hmem =>
          ?_, fun other hother => ?_⟩
        · rw [put.eq_def]
          dsimp only
          rw [if_neg hname, hput]
          rfl
        · rw [List.map_cons, List.map_cons, hnames]
        · rw [field?_cons, if_neg (Ne.symm hname)]
          exact hkey ((List.mem_cons.mp hmem).resolve_left (Ne.symm hname))
        · rw [field?_cons, field?_cons, hothers other hother]

/-- Entries with keys of their own fill the fields that have these keys. -/
theorem exists_putAll {members : List Member} {entries : List (Lexeme × Json)}
    (hentries : List.Forall₂ Member.IsEntry members entries)
    (hkeys : (members.map Member.key).Nodup)
    (hnames : ∀ m ∈ members, m.key ∈ fields.map Prod.fst)
    (hnone : ∀ m ∈ members, field? m.key fields = none) :
    ∃ filled, putAll entries fields = .ok filled ∧
      (∀ m ∈ members, ∃ value, field? m.key filled = some value ∧
        m.holds value) ∧
      ∀ other, other ∉ members.map Member.key →
        field? other filled = field? other fields := by
  induction hentries generalizing fields with
  | nil => exact ⟨fields, rfl, by simp, fun _ _ => rfl⟩
  | @cons m entry members entries hentry hentries ih =>
      obtain ⟨lexeme, value⟩ := entry
      obtain ⟨⟨start, stop, rfl⟩, hvalue⟩ := hentry
      obtain ⟨hkey, hkeys⟩ := List.nodup_cons.mp hkeys
      obtain ⟨hname, hnames⟩ := List.forall_mem_cons.mp hnames
      obtain ⟨hempty, hnone⟩ := List.forall_mem_cons.mp hnone
      obtain ⟨filled, hput, hsame, hheld, hothers⟩ :=
        exists_put stop value hempty
      have hne : ∀ other ∈ members, other.key ≠ m.key := fun other hother heq =>
        hkey (heq ▸ List.mem_map_of_mem hother)
      obtain ⟨all, hall, hmembers, hrest⟩ :=
        ih hkeys (fun other hother => hsame ▸ hnames other hother)
          fun other hother =>
            (hothers other.key (hne other hother)).trans (hnone other hother)
      refine ⟨all, ?_, ?_, fun other hother => ?_⟩
      · rw [putAll, hput]
        exact hall
      · rw [List.forall_mem_cons]
        exact ⟨⟨value, (hrest m.key hkey).trans (hheld hname), hvalue⟩,
          hmembers⟩
      · rw [List.map_cons, List.mem_cons, not_or] at hother
        exact (hrest other hother.2).trans (hothers other hother.1)

theorem field?_map_none (key : String) (names : List String) :
    field? key (names.map fun name => (name, none)) = none := by
  induction names with
  | nil => rfl
  | cons name names ih => rw [List.map_cons, field?_cons, ih, ite_self]

end Record

/-- A record whose field of the name of each member holds what it writes. -/
def IsRecord (members : List Member) (value : Json) : Prop :=
  ∀ names expected, (∀ m ∈ members, m.key ∈ names) →
    ∃ fields, value.record names expected = .ok fields ∧
      ∀ m ∈ members, ∃ value, field? m.key fields = some value ∧ m.holds value

/-- An object in which no key is repeated is a record. -/
theorem Writes.record {members : List Member}
    (hkeys : (members.map Member.key).Nodup) :
    Writes (objectOctets members) (IsRecord members) := by
  refine (Writes.object members).mono ?_
  rintro value ⟨start, entries, rfl, hentries⟩ names expected hnames
  have hnone : ∀ m ∈ members,
      field? m.key (names.map fun name => (name, none)) = none :=
    fun m _ => field?_map_none m.key names
  obtain ⟨fields, hput, hmembers, -⟩ :=
    exists_putAll hentries hkeys (by simpa using hnames) hnone
  exact ⟨fields, hput, hmembers⟩

end TrustPath.Json
