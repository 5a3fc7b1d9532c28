import SlopLint.Pattern.Basic

/-!
# Widths

How many characters a pattern can take: a least number, and a greatest one unless there is no
bound. Looking behind is possible only over a pattern whose two numbers agree.
-/

namespace SlopLint.Pattern

/-- The least and the greatest number of characters; `none` stands for no bound. -/
structure Width where
  min : Nat
  max : Option Nat
deriving DecidableEq, Repr

namespace Width

/-- The width of what always takes `n` characters. -/
def exactly (n : Nat) : Width := ⟨n, some n⟩

/-- The width of one pattern after another. -/
def add (a b : Width) : Width :=
  ⟨a.min + b.min, do pure ((← a.max) + (← b.max))⟩

/-- The width of two alternatives. -/
def join (a b : Width) : Width :=
  ⟨Nat.min a.min b.min, do pure (Nat.max (← a.max) (← b.max))⟩

/-- The width of a repetition. What takes no character may be repeated without bound. -/
def times (w : Width) (min : Nat) (max : Option Nat) : Width :=
  ⟨w.min * min, if w.max = some 0 then some 0 else do pure ((← w.max) * (← max))⟩

end Width

/-- The width of a pattern, given the widths of the groups it refers to. -/
def Node.width (groups : List (Nat × Width)) : Node → Width
  | empty => .exactly 0
  | char _ _ => .exactly 1
  | anchor _ => .exactly 0
  | cat first second => (first.width groups).add (second.width groups)
  | alt first second => (first.width groups).join (second.width groups)
  | capture _ body => body.width groups
  | loop _ min max body => (body.width groups).times min max
  | atomic body => body.width groups
  | ahead _ _ => .exactly 0
  | behind _ _ _ => .exactly 0
  | backref _ group => (groups.lookup group).getD (.exactly 0)
  | conditional _ yes no => (yes.width groups).join (no.width groups)

end SlopLint.Pattern
