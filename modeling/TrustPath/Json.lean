import TrustPath.Json.Token
import TrustPath.Text.Quoted

/-!
JSON values. A value is read from its lexemes one by one by a pushdown
automaton, so values may be nested to any depth. The lexemes of scalars and keys
stay in the value, and so do the places of brackets: whoever reads something out
of a value can tell where it is wrong.
-/

namespace TrustPath

/-- A JSON value. Arrays and objects know the offset of their opening bracket;
the members of an object are in the order written, with repeated keys. -/
inductive Json where
  | scalar (lexeme : Json.Lexeme)
  | array (start : Nat) (items : List Json)
  | object (start : Nat) (members : List (Json.Lexeme × Json))

namespace Json

def start : Json → Nat
  | scalar lexeme => lexeme.start
  | array start _ => start
  | object start _ => start

/-! ### Reading -/

/-- A value of which only the beginning is known, and in which another one is
awaited. What is already there has the latest entry first. -/
inductive Frame where
  | item (start : Nat) (items : List Json)
  | member (start : Nat) (members : List (Lexeme × Json)) (key : Lexeme)

/-- How far a value has been read, with the frames around, innermost first. -/
inductive Progress where
  | awaitsValue (around : List Frame)
  /-- If there are no items yet, the array may end here. -/
  | awaitsItem (start : Nat) (items : List Json) (around : List Frame)
  | afterItem (start : Nat) (items : List Json) (around : List Frame)
  /-- If there are no members yet, the object may end here. -/
  | awaitsKey (start : Nat) (members : List (Lexeme × Json))
      (around : List Frame)
  | afterKey (start : Nat) (members : List (Lexeme × Json)) (key : Lexeme)
      (around : List Frame)
  | afterMember (start : Nat) (members : List (Lexeme × Json))
      (around : List Frame)
  | complete (value : Json)

namespace Progress

def close (value : Json) : List Frame → Progress
  | [] => .complete value
  | .item start items :: around => .afterItem start (value :: items) around
  | .member start members key :: around =>
    .afterMember start ((key, value) :: members) around

def refuse (cause : Cause) (l : Lexeme) : Except Fault Progress :=
  .error ⟨cause, l.start + 1⟩

def begin (around : List Frame) (l : Lexeme) : Except Fault Progress :=
  match l.token with
  | .openObject => .ok (.awaitsKey l.start [] around)
  | .openArray => .ok (.awaitsItem l.start [] around)
  | .null | .bool _ | .integer _ | .number _ | .text _ =>
    .ok (close (.scalar l) around)
  | .broken cause => .error ⟨cause, l.stop⟩
  | .closeObject | .closeArray | .comma | .colon => refuse .noValue l

def step (p : Progress) (l : Lexeme) : Except Fault Progress :=
  match p with
  | awaitsValue around => begin around l
  | awaitsItem start items around =>
    if l.token = .closeArray then
      if items.isEmpty then .ok (close (.array start []) around)
        else refuse .trailingComma l
    else begin (.item start items :: around) l
  | afterItem start items around =>
    if l.token = .comma then .ok (awaitsItem start items around)
    else if l.token = .closeArray then
      .ok (close (.array start items.reverse) around)
    else refuse .noArrayEnd l
  | awaitsKey start members around =>
    match l.token with
    | .text _ => .ok (afterKey start members l around)
    | .closeObject =>
      if members.isEmpty then .ok (close (.object start []) around)
        else refuse .trailingComma l
    | .broken cause =>
      if cause.isInText then .error ⟨cause, l.stop⟩ else refuse .noTextKey l
    | _ => refuse .noTextKey l
  | afterKey start members key around =>
    if l.token = .colon then
      .ok (awaitsValue (.member start members key :: around))
    else refuse .noColon l
  | afterMember start members around =>
    if l.token = .comma then .ok (awaitsKey start members around)
    else if l.token = .closeObject then
      .ok (close (.object start members.reverse) around)
    else refuse .noObjectEnd l
  | complete _ => refuse .trailingOctets l

/-- The value, if it is complete where the text ends. -/
def finish (stop : Nat) : Progress → Except Fault Json
  | complete value => .ok value
  | awaitsValue _ => .error ⟨.endInValue, stop⟩
  | awaitsItem _ items _ =>
    .error ⟨if items.isEmpty then .endInArray else .endInValue, stop⟩
  | afterItem _ _ _ => .error ⟨.endInArray, stop⟩
  | awaitsKey _ members _ =>
    .error ⟨if members.isEmpty then .endInObject else .endInValue, stop⟩
  | afterKey _ _ _ _ => .error ⟨.endInObject, stop⟩
  | afterMember _ _ _ => .error ⟨.endInObject, stop⟩

def run : Progress → List Lexeme → Except Fault Progress
  | p, [] => .ok p
  | p, l :: rest => do (← p.step l).run rest

end Progress

def ofBytes (input : Bytes) : Except Fault Json := do
  (← (Progress.awaitsValue []).run (lexemes input)).finish input.length

/-! ### Reading out of a value -/

/-- What a message calls a value. -/
def describe : Json → String
  | array _ _ => "sequence"
  | object _ _ => "map"
  | scalar lexeme =>
    match lexeme.token with
    | .null => "null"
    | .bool value => "boolean `" ++ toString value ++ "`"
    | .integer value => "integer `" ++ toString value ++ "`"
    | .number literal => "floating point `" ++ literal ++ "`"
    | .text content => "string " ++ Text.quoted (content.getD "")
    | _ => "nothing"

def wrongKind {α : Type} (value : Json) (expected : String) : Except Fault α :=
  .error ⟨.wrongKind value.describe expected,
    match value with
    | scalar lexeme => lexeme.stop
    | array start _ => start
    | object start _ => start⟩

def natural (limit : Nat) (expected : String) (value : Json) :
    Except Fault Nat :=
  match value with
  | scalar ⟨.integer n, _, stop⟩ =>
    if 0 ≤ n ∧ n ≤ limit then .ok n.toNat
    else .error ⟨.outOfRange value.describe expected, stop⟩
  | other => other.wrongKind expected

def text (value : Json) : Except Fault String :=
  match value with
  | scalar ⟨.text (some content), _, _⟩ => .ok content
  | scalar ⟨.text none, _, stop⟩ => .error ⟨.badText, stop⟩
  | other => other.wrongKind "a string"

def optional {α : Type} (read : Json → Except Fault α) :
    Option Json → Except Fault (Option α)
  | none => .ok none
  | some (scalar ⟨.null, _, _⟩) => .ok none
  | some value => (read value).map some

/-- A record with named fields of which some are known: what each of these
holds, in their order. -/
abbrev Fields := List (String × Option Json)

/-- Puts a member of an object into its field. Members with other keys are
passed over. -/
def put (key : String) (stop : Nat) (value : Json) :
    Fields → Except Fault Fields
  | [] => .ok []
  | (name, held) :: rest =>
    if name = key then
      match held with
      | none => .ok ((name, some value) :: rest)
      | some _ => .error ⟨.repeatedKey key, stop⟩
    else (put key stop value rest).map ((name, held) :: ·)

def putAll : List (Lexeme × Json) → Fields → Except Fault Fields
  | [], fields => .ok fields
  | (⟨.text (some key), _, stop⟩, value) :: rest, fields => do
    putAll rest (← put key stop value fields)
  | (⟨_, _, stop⟩, _) :: _, _ => .error ⟨.badText, stop⟩

/-- Fills fields by position. There may be too few items, but not too many. -/
def putInOrder : List Json → List String → Except Fault Fields
  | [], names => .ok (names.map fun name => (name, none))
  | extra :: _, [] => .error ⟨.trailingOctets, extra.start + 1⟩
  | item :: items, name :: names =>
    (putInOrder items names).map ((name, some item) :: ·)

/-- What the fields of a record hold. The record is an object, or an array that
gives fields by position. -/
def record (names : List String) (expected : String) (value : Json) :
    Except Fault Fields :=
  match value with
  | object _ members => putAll members (names.map fun name => (name, none))
  | array _ items => putInOrder items names
  | other => other.wrongKind expected

def field? (name : String) (fields : Fields) : Option Json :=
  (fields.lookup name).join

end Json

end TrustPath
