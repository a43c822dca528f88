import TrustPath.Text.Unicode.Case

/-!
Folding of texts for comparison: white space is trimmed at both ends and every
run of it inside becomes one space, and letters are written in lower case, where
a capital sigma at the end of a word becomes the final form.
-/

namespace TrustPath.Text

open Unicode

/-- The characters with the property White_Space. -/
def isBlank (c : Char) : Bool :=
  let n := c.toNat
  (9 ≤ n && n ≤ 13) || n = 0x20 || n = 0x85 || n = 0xa0 || n = 0x1680 ||
    (0x2000 ≤ n && n ≤ 0x200a) || n = 0x2028 || n = 0x2029 || n = 0x202f || n =
    0x205f || n = 0x3000

/-- Removes white space at both ends. -/
def trim (cs : List Char) : List Char :=
  ((cs.dropWhile isBlank).reverse.dropWhile isBlank).reverse

/-- Writes every run of white space as one space; `inRun` says that a run has
begun already. -/
def collapse (inRun : Bool) : List Char → List Char
  | [] => []
  | c :: rest =>
    if isBlank c then (if inRun then collapse true rest
      else ' ' :: collapse true rest)
    else c :: collapse false rest

/-- The lowercase form of a letter of a run, if it is one of them. -/
def Unicode.CaseRun.lower? (run : CaseRun) (n : Nat) : Option Nat :=
  if run.first ≤ n && n ≤ run.last && (n - run.first) % run.gap = 0 then
    some (run.lower + (n - run.first))
  else none

/-- The lowercase form of a character by itself: one character, except for the
dotted capital I. -/
def lowerChar (c : Char) : List Char :=
  let n := c.toNat
  if n < 0x80 then [c.toLower]
  else if n = 0x130 then ['i', Char.ofNat 0x307]
  else match lowercaseRuns.findSome? (·.lower? n) with
    | some m => [Char.ofNat m]
    | none => [c]

/-- Whether the first character that matters for case is a letter with a
case. -/
def meetsCased (cs : List Char) : Bool :=
  match cs.dropWhile fun c => inRanges caseIgnorableRanges c.toNat with
  | [] => false
  | c :: _ => inRanges casedRanges c.toNat

/-- Lowercase text, given the characters before it from the nearest on: a
capital sigma after a cased letter and not before one is final. -/
def lowerAfter (before : List Char) : List Char → List Char
  | [] => []
  | c :: rest =>
    if c = 'Σ' then
      (if meetsCased before && !meetsCased rest then 'ς' else 'σ') :: lowerAfter
        (c :: before) rest
    else lowerChar c ++ lowerAfter (c :: before) rest

def lower (cs : List Char) : List Char :=
  lowerAfter [] cs

/-- What is left of a text when letter case and the amount of white space do not
count. -/
def fold (text : String) : List Char :=
  collapse false (lower (trim text.toList))

end TrustPath.Text
