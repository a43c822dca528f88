import TrustPath.Json.Fault

/-!
JSON texts between quotes. `escaped` writes a text so that it can stand between
quotes; `readParts` reads one up to its closing quote, and `content?` says what
it stands for.
-/

namespace TrustPath.Json

/-- The escape of a control character for which there is no short one. -/
def numberedEscape (c : Char) : List Char :=
  ['\\', 'u', '0', '0', Bytes.hexDigit (c.toNat / 16),
    Bytes.hexDigit (c.toNat % 16)]

def escapedChar (c : Char) : List Char :=
  if c = '"' then ['\\', '"']
  else if c = '\\' then ['\\', '\\']
  else if c = '\x08' then ['\\', 'b']
  else if c = '\t' then ['\\', 't']
  else if c = '\n' then ['\\', 'n']
  else if c = '\x0c' then ['\\', 'f']
  else if c = '\r' then ['\\', 'r']
  else if c.toNat < 32 then numberedEscape c
  else [c]

/-- A text between quotes. Quotes, backslashes and control characters are
escaped. -/
def quoted (text : String) : String :=
  "\"" ++ String.ofList (text.toList.flatMap escapedChar) ++ "\""

/-- A part of a text as it is written: an octet, or a sixteen-bit unit written
by number. -/
inductive Part where
  | octet (b : UInt8)
  | unit (n : Nat)
deriving DecidableEq

def shortEscape? (b : UInt8) : Option UInt8 :=
  if b = 0x22 ∨ b = 0x5c ∨ b = 0x2f then some b
  else if b = 0x62 then some 0x08
  else if b = 0x66 then some 0x0c
  else if b = 0x6e then some 0x0a
  else if b = 0x72 then some 0x0d
  else if b = 0x74 then some 0x09
  else none

def unit? (a b c d : UInt8) : Option Nat := do
  let value? (b : UInt8) := Bytes.hexValue? (Char.ofNat b.toNat)
  return 4096 * (← value? a) + 256 * (← value? b) + 16 * (← value? c) +
    (← value? d)

/-- What a reader finds at the beginning of some octets: a value and how many
octets it takes, or what is wrong and how many octets there are up to and with
the place. -/
abbrev Sized (α : Type) := Except Fault (α × Nat)

def Sized.after {α β : Type} (size : Nat) (f : α → β) : Sized α → Sized β
  | .ok (a, more) => .ok (f a, size + more)
  | .error fault => .error ⟨fault.cause, size + fault.offset⟩

def readParts : Bytes → Sized (List Part)
  | [] => .error ⟨.endInText, 0⟩
  | b :: rest =>
    if b = 0x22 then .ok ([], 1)
    else if b = 0x5c then
      match rest with
      | [] => .error ⟨.endInText, 1⟩
      | e :: rest =>
        if e = 0x75 then
          match rest with
          | h₁ :: h₂ :: h₃ :: h₄ :: rest =>
            match unit? h₁ h₂ h₃ h₄ with
            | some n => (readParts rest).after 6 (.unit n :: ·)
            | none => .error ⟨.badEscape, 6⟩
          | short => .error ⟨.endInText, 2 + short.length⟩
        else match shortEscape? e with
          | some c => (readParts rest).after 2 (.octet c :: ·)
          | none => .error ⟨.badEscape, 2⟩
    else if b.toNat < 32 then .error ⟨.controlOctet, 1⟩
    else (readParts rest).after 1 (.octet b :: ·)

/-- Whether a unit is the first half of a character beyond the first 2¹⁶. -/
def isFirstHalf (n : Nat) : Bool :=
  0xd800 ≤ n && n ≤ 0xdbff

def isSecondHalf (n : Nat) : Bool :=
  0xdc00 ≤ n && n ≤ 0xdfff

/-- The octets of the character with a number. -/
def charOctets (n : Nat) : Bytes :=
  Bytes.ofText (String.singleton (Char.ofNat n))

/-- The octets for which parts stand; halves of characters have to come in
pairs. -/
def octets? : List Part → Option Bytes
  | [] => some []
  | .octet b :: rest => (octets? rest).map (b :: ·)
  | .unit n :: rest =>
    if isFirstHalf n then
      match rest with
      | .unit m :: rest =>
        if isSecondHalf m then
          (octets? rest).map
            (charOctets (0x10000 + 0x400 * (n - 0xd800) + (m - 0xdc00)) ++ ·)
        else none
      | _ => none
    else if isSecondHalf n then none
    else (octets? rest).map (charOctets n ++ ·)

def content? (parts : List Part) : Option String :=
  (octets? parts).bind Bytes.text?

end TrustPath.Json
