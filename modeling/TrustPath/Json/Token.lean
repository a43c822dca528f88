import TrustPath.Json.Quoted

/-!
The tokens of a JSON text with their places. A text is cut into lexemes up to
its end or to the first octets that are no token; these become a last lexeme
that says what is wrong with them.
-/

namespace TrustPath.Json

/-- A token. Numbers are integers of 64 bits, with or without a sign, or are
kept as they are written; of a text between quotes, its content is kept, if it
has one. -/
inductive Token where
  | openObject
  | closeObject
  | openArray
  | closeArray
  | comma
  | colon
  | null
  | bool (value : Bool)
  | integer (value : Int)
  | number (literal : String)
  | text (content : Option String)
  | broken (cause : Cause)
deriving DecidableEq

/-- A token and the offsets of its first octet and of what follows it. -/
structure Lexeme where
  token : Token
  start : Nat
  stop : Nat
deriving DecidableEq

def isSpace (b : UInt8) : Bool :=
  b = 0x20 || b = 0x09 || b = 0x0a || b = 0x0d

def isDigit (b : UInt8) : Bool :=
  0x30 ≤ b.toNat && b.toNat ≤ 0x39

def digitCount (bs : Bytes) : Nat :=
  (bs.takeWhile isDigit).length

/-- Some digits have to come; they may be followed by anything. -/
def readDigits (bs : Bytes) : Sized Unit :=
  if bs.isEmpty then .error ⟨.endInValue, 0⟩
  else if digitCount bs = 0 then .error ⟨.badNumber, 1⟩
  else .ok ((), digitCount bs)

/-- Reads the whole part of a number: a zero, or digits that do not begin with
one. -/
def readWhole : Bytes → Sized Unit
  | 0x30 :: rest =>
    if digitCount rest = 0 then .ok ((), 1) else .error ⟨.badNumber, 2⟩
  | bs => readDigits bs

def readFraction : Bytes → Sized Unit
  | 0x2e :: rest => (readDigits rest).after 1 id
  | _ => .ok ((), 0)

def readExponent : Bytes → Sized Unit
  | e :: rest =>
    if e = 0x65 ∨ e = 0x45 then
      match rest with
      | sign :: digits =>
        if sign = 0x2b ∨ sign = 0x2d then (readDigits digits).after 2 id
        else (readDigits rest).after 1 id
      | [] => .error ⟨.endInValue, 1⟩
    else .ok ((), 0)
  | [] => .ok ((), 0)

def digitsValue (digits : Bytes) : Nat :=
  digits.foldl (fun n b => 10 * n + (b.toNat - 0x30)) 0

/-- Reads the number that follows a sign, or that stands without one. It is an
integer if it has a whole part only and is not too large; there is no negative
zero among the integers. -/
def readNumber (negative : Bool) (bs : Bytes) : Except Fault (Token × Nat) := do
  let (_, whole) ← readWhole bs
  let (_, fraction) ← (readFraction (bs.drop whole)).after whole id
  let (_, size) ← (readExponent (bs.drop fraction)).after fraction id
  let literal := bs.take size
  let value := digitsValue literal
  let token : Token :=
    if size = whole ∧ !negative ∧ value < UInt64.size then .integer value
    else if size = whole ∧ negative ∧ 0 < value ∧
      value ≤ UInt64.size / 2 then .integer (-value)
    else .number ((if negative then "-" else "") ++
      (Bytes.text? literal).getD "")
  return (token, size)

/-- Reads the letters that have to follow the first one of a word. -/
def readWord (token : Token) : (letters : Bytes) → Bytes → Sized Token
  | [], _ => .ok (token, 0)
  | _ :: _, [] => .error ⟨.endInValue, 0⟩
  | letter :: letters, b :: rest =>
    if b = letter then (readWord token letters rest).after 1 id
      else .error ⟨.noWord, 1⟩

def readToken (b : UInt8) (rest : Bytes) : Sized Token :=
  if b = 0x7b then .ok (.openObject, 0)
  else if b = 0x7d then .ok (.closeObject, 0)
  else if b = 0x5b then .ok (.openArray, 0)
  else if b = 0x5d then .ok (.closeArray, 0)
  else if b = 0x2c then .ok (.comma, 0)
  else if b = 0x3a then .ok (.colon, 0)
  else if b = 0x22 then (readParts rest).after 0 fun parts =>
    .text (content? parts)
  else if b = 0x6e then readWord .null [0x75, 0x6c, 0x6c] rest
  else if b = 0x74 then readWord (.bool true) [0x72, 0x75, 0x65] rest
  else if b = 0x66 then readWord (.bool false) [0x61, 0x6c, 0x73, 0x65] rest
  else if b = 0x2d then readNumber true rest
  else if isDigit b then
    match readNumber false (b :: rest) with
    | .ok (token, size) => .ok (token, size - 1)
    | .error fault => .error ⟨fault.cause, fault.offset - 1⟩
  else .error ⟨.noValue, 0⟩

/-- Cuts octets into lexemes. The first of them is at `offset`, and `pending` of
them belong to the token before. -/
def lexemesFrom : (offset pending : Nat) → Bytes → List Lexeme
  | _, _, [] => []
  | offset, pending + 1, _ :: rest => lexemesFrom (offset + 1) pending rest
  | offset, 0, b :: rest =>
    if isSpace b then lexemesFrom (offset + 1) 0 rest
    else match readToken b rest with
      | .ok (token, more) =>
        ⟨token, offset, offset + 1 + more⟩ :: lexemesFrom (offset + 1) more rest
      | .error fault =>
          [⟨.broken fault.cause, offset, offset + 1 + fault.offset⟩]

/-- The lexemes of a JSON text. -/
def lexemes (input : Bytes) : List Lexeme :=
  lexemesFrom 0 0 input

end TrustPath.Json
