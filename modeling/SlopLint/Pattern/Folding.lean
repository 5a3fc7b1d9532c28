import SlopLint.Pattern.Basic

/-!
# Comparing characters

When case counts, a character passes a test on its code point. When it does not, the character is
lowered first, and a code point stands for its lower-case form together with the lower-case
characters that share its upper-case form. Sets of characters without any case are tested as they
stand.
-/

namespace SlopLint.Pattern

/-- A case-blind comparison: the lower-case form, which characters have a case, and which other
lower-case forms count as the same. -/
structure Folding where
  lower : Nat → Nat
  isCased : Nat → Bool
  variants : Nat → List Nat
  capitals : Nat → List Nat
  rangeIsCased : Nat → Nat → Bool

/-- Applies a function on characters to a code point; one that is no character stays. -/
def onCode (f : Char → Char) (n : Nat) : Nat :=
  if (Char.ofNat n).toNat = n then (f (Char.ofNat n)).toNat else n

/-- Whether a range of code points meets one of the runs of a case table. -/
def meetsRun (runs : List (Nat × Nat × Nat × Nat)) (lo hi : Nat) : Bool :=
  runs.any fun (first, last, step, _) =>
    let start := if lo ≤ first then first else first + (lo - first + step - 1) / step * step
    start ≤ last && start ≤ hi

/-- Whether a range of code points holds an ASCII letter. -/
def meetsAsciiLetters (lo hi : Nat) : Bool :=
  (lo ≤ 90 && 65 ≤ hi) || (lo ≤ 122 && 97 ≤ hi)

/-- Case-blind comparison of all characters. -/
def Folding.unicode : Folding where
  lower := onCode Text.lower
  isCased n := onCode Text.lower n != n || onCode Text.upper n != n
  variants n := (Text.caseVariants (Char.ofNat n)).map Char.toNat
  capitals n := (Text.capitals (Char.ofNat n)).map Char.toNat
  rangeIsCased lo hi :=
    meetsAsciiLetters lo hi || meetsRun Text.lowerRuns lo hi || meetsRun Text.upperRuns lo hi

/-- Case-blind comparison of ASCII letters only. -/
def Folding.ascii : Folding where
  lower := onCode Text.lowerAscii
  isCased n := meetsAsciiLetters n n
  variants _ := []
  capitals n := if 97 ≤ n ∧ n ≤ 122 then [n - 32] else []
  rangeIsCased := meetsAsciiLetters

/-- The comparison of a mode in which case does not count. -/
def Mode.folding (mode : Mode) : Folding :=
  if mode.ascii then .ascii else .unicode

/-- The last code point that a set folds one by one; ranges above it are compared by their ends. -/
def lastFolded : Nat := 0xFFFF

/-- Whether a member of a set has a case. -/
def SetItem.isCased (folding : Folding) : SetItem → Bool
  | code n => folding.isCased n || lastFolded < folding.lower n
  | range lo hi => lastFolded < hi || folding.rangeIsCased lo hi
  | category _ _ => false

/-- The code points whose lower-case form counts as `n`, which is in lower case itself. -/
def Folding.sources (folding : Folding) (n : Nat) : List Nat :=
  (n :: folding.variants n).flatMap fun m => m :: folding.capitals m

/-- Whether a member of a set takes the character `c`, case counting. -/
def SetItem.takes (ascii : Bool) (c : Char) : SetItem → Bool
  | code n => c.toNat == n
  | range lo hi => lo ≤ c.toNat && c.toNat ≤ hi
  | category negated kind => kind.holds ascii c != negated

/-- Whether a member of a set takes the character `c`, which is in lower case, case not
counting. -/
def SetItem.takesFolded (folding : Folding) (ascii : Bool) (c : Char) : SetItem → Bool
  | code n =>
    let low := folding.lower n
    if lastFolded < low then c.toNat == n
    else c.toNat == low || (folding.variants low).contains c.toNat
  | range lo hi =>
    (lo ≤ c.toNat && c.toNat ≤ hi) ||
      (folding.sources c.toNat).any (fun n => lo ≤ n && n ≤ min hi lastFolded) ||
      (lastFolded < hi && lo ≤ onCode Text.upper c.toNat && onCode Text.upper c.toNat ≤ hi)
  | category negated kind => kind.holds ascii c != negated

/-- The lower-case form of a character under a mode. -/
def Mode.lower (mode : Mode) (c : Char) : Char :=
  if mode.ascii then Text.lowerAscii c else Text.lower c

/-- Whether two characters count as the same in a back-reference. -/
def Mode.same (mode : Mode) (a b : Char) : Bool :=
  if mode.ignoreCase then mode.lower a == mode.lower b else a == b

/-- Whether a code point of the pattern takes the character `c`. -/
def Mode.takesCode (mode : Mode) (n : Nat) (c : Char) : Bool :=
  if mode.ignoreCase && mode.folding.isCased n then
    let low := mode.folding.lower n
    let c := mode.lower c
    c.toNat == low || (mode.folding.variants low).contains c.toNat
  else c.toNat == n

/-- Whether a set takes the character `c`. -/
def Mode.takesItems (mode : Mode) (items : List SetItem) (c : Char) : Bool :=
  if mode.ignoreCase && items.any (·.isCased mode.folding) then
    items.any (·.takesFolded mode.folding mode.ascii (mode.lower c))
  else items.any (·.takes mode.ascii c)

def CharTest.passes (mode : Mode) (c : Char) : CharTest → Bool
  | code negated n => mode.takesCode n c != negated
  | any => true
  | notNewline => c != '\n'
  | category negated kind => kind.holds mode.ascii c != negated
  | set negated items => mode.takesItems items c != negated

end SlopLint.Pattern
