import SlopLint.Text.IntervalMap
import SlopLint.Text.CaseTable

/-!
# Letter case

Single characters are folded by `lower` and `upper`, which give the first character of the case
form; `lowerText` lowers a whole text, with the two rules that look further than one character:
a dotted capital I keeps its dot as a combining mark, and a capital sigma at the end of a word
becomes a final sigma.
-/

namespace SlopLint.Text

def lowerMap : IntervalMap (Nat × Nat) := .ofIntervals lowerRuns

def upperMap : IntervalMap (Nat × Nat) := .ofIntervals upperRuns

/-- The character moved as its run says, if a run holds it. -/
def moveBy (map : IntervalMap (Nat × Nat)) (c : Char) : Char :=
  match map.find? c.toNat with
  | some (first, step, image) =>
    if (c.toNat - first) % step == 0 then Char.ofNat (image + (c.toNat - first)) else c
  | none => c

/-- The lower-case form of an ASCII letter; every other character stays. -/
def lowerAscii (c : Char) : Char := c.toLower

/-- The first character of the lower-case form. -/
def lower (c : Char) : Char :=
  if c.toNat < 128 then c.toLower else moveBy lowerMap c

/-- The first character of the upper-case form. -/
def upper (c : Char) : Char :=
  if c.toNat < 128 then c.toUpper else moveBy upperMap c

/-- A character whose case can change. -/
def isCased (c : Char) : Bool :=
  lower c != c || upper c != c

/-- The characters above ASCII in a run whose images hold the code point `n`. -/
def preimages (runs : List (Nat × Nat × Nat × Nat)) (n : Nat) : List Nat :=
  runs.filterMap fun (first, last, step, image) =>
    if image ≤ n ∧ first + (n - image) ≤ last ∧ (n - image) % step = 0 then
      some (first + (n - image))
    else none

/-- The characters, other than `c` itself, whose lower-case form starts with `c`. -/
def capitals (c : Char) : List Char :=
  if c.toNat < 128 then
    if c == 'i' then ['I', '\u0130'] else if c == 'k' then ['K', '\u212a']
    else if c.isLower then [c.toUpper] else []
  else (preimages lowerRuns c.toNat).map Char.ofNat

/-- Groups of lower-case characters that share their upper-case form. -/
def caseGroups : List (List Nat) := [
  [0x69, 0x131], [0x73, 0x17F], [0xB5, 0x3BC], [0x345, 0x3B9, 0x1FBE], [0x390, 0x1FD3],
  [0x3B0, 0x1FE3], [0x3B2, 0x3D0], [0x3B5, 0x3F5], [0x3B8, 0x3D1], [0x3BA, 0x3F0],
  [0x3C0, 0x3D6], [0x3C1, 0x3F1], [0x3C2, 0x3C3], [0x3C6, 0x3D5], [0x432, 0x1C80],
  [0x434, 0x1C81], [0x43E, 0x1C82], [0x441, 0x1C83], [0x442, 0x1C84, 0x1C85], [0x44A, 0x1C86],
  [0x463, 0x1C87], [0x1C88, 0xA64B], [0x1E61, 0x1E9B], [0xFB05, 0xFB06]]

/-- The other lower-case characters with the same upper-case form. -/
def caseVariants (c : Char) : List Char :=
  if c.toNat < 128 then
    if c == 'i' then ['\u0131'] else if c == 's' then ['\u017f'] else []
  else
    match caseGroups.find? (·.contains c.toNat) with
    | some group => (group.filter (· != c.toNat)).map Char.ofNat
    | none => []

/-- The characters with a case, ready for look-up. -/
def casedCharacters : IntervalMap Unit := .ofRanges casedRanges

/-- The characters that are passed over around a sigma, ready for look-up. -/
def caseIgnorables : IntervalMap Unit := .ofRanges caseIgnorableRanges

/-- Whether the nearest character that is not passed over has a case. -/
def casedNearby : List Char → Bool
  | [] => false
  | c :: rest =>
    if caseIgnorables.contains c.toNat then casedNearby rest
    else if c.toNat < 128 then c.isAlpha
    else casedCharacters.contains c.toNat

/-- The lower-case form of the text to the right of `before`, which is given in reverse. -/
def lowerFrom (before : List Char) : List Char → List Char
  | [] => []
  | c :: rest =>
    let form :=
      if c == '\u0130' then ['i', '\u0307']
      else if c == '\u03a3' then
        [if casedNearby before && !casedNearby rest then '\u03c2' else '\u03c3']
      else [lower c]
    form ++ lowerFrom (c :: before) rest

def lowerText (text : List Char) : List Char :=
  lowerFrom [] text

end SlopLint.Text
