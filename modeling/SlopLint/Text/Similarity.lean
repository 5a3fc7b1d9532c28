/-!
# Similarity

How much two texts have in common: their longest common block, and again what the parts before it
and the parts behind it have in common. Of several longest blocks the first is taken.
-/

namespace SlopLint.Text

/-- The length of the beginning that two texts share. -/
def commonStart : List Char → List Char → Nat
  | a :: as, b :: bs => if a = b then commonStart as bs + 1 else 0
  | _, _ => 0

/-- A block that stands in two texts: where it starts in each of them, and its length. -/
structure CommonBlock where
  left : Nat
  right : Nat
  length : Nat

/-- The first of the longest blocks that two texts share. -/
def longestBlock (a b : List Char) : CommonBlock :=
  (List.range a.length).foldl
    (fun best i =>
      (List.range b.length).foldl
        (fun best j =>
          let length := commonStart (a.drop i) (b.drop j)
          if best.length < length then ⟨i, j, length⟩ else best)
        best)
    ⟨0, 0, 0⟩

/-- The number of characters that two texts share; `fuel` bounds the depth of the division. -/
def sharedFrom : Nat → List Char → List Char → Nat
  | 0, _, _ => 0
  | fuel + 1, a, b =>
    let block := longestBlock a b
    if block.length = 0 then 0
    else
      sharedFrom fuel (a.take block.left) (b.take block.right) + block.length +
        sharedFrom fuel (a.drop (block.left + block.length)) (b.drop (block.right + block.length))

/-- The number of characters that two texts share. -/
def shared (a b : List Char) : Nat :=
  sharedFrom (a.length + 1) a b

/-- Whether the shared characters make up three fifths of two texts. -/
def isSimilar (a b : List Char) : Bool :=
  3 * (a.length + b.length) ≤ 10 * shared a b

end SlopLint.Text
