import Mathlib.Tactic.Lemma
import SlopLint.Pattern.Search

/-!
# Where a pattern can end

Backtracking goes through the places a node can end at, in the order of preference, and stops at
the first one from which the rest succeeds. So a node is known by the list of these places, and
what is said of a match is said of the members of that list.
-/

namespace SlopLint.Pattern

/-- The places that something can end at, the preferred one first. -/
abbrev Ends := Cursor → List Cursor

/-- Exactly `n` rounds of a body. -/
def Ends.times (body : Ends) : Nat → Ends
  | 0, s => [s]
  | n + 1, s => (body s).flatMap (times body n)

/-- Up to `n` rounds of a body, those with more rounds first. -/
def Ends.greedy (body : Ends) : Nat → Ends
  | 0, s => [s]
  | n + 1, s =>
    ((body s).flatMap fun t => if t.left < s.left then greedy body n t else [t]) ++ [s]

/-- Up to `n` rounds of a body, those with fewer rounds first. -/
def Ends.lazy (body : Ends) : Nat → Ends
  | 0, s => [s]
  | n + 1, s =>
    s :: (body s).flatMap fun t => if t.left < s.left then lazy body n t else [t]

/-- The places a node can end at. Atomic nodes and assertions commit to the first one. -/
def Node.ends : Node → Ends
  | empty => fun s => [s]
  | char mode test => fun s =>
    match s.after with
    | [] => []
    | c :: _ => if test.passes mode c then [s.forward] else []
  | anchor place => fun s => if place.holds s then [s] else []
  | cat first second => fun s => (first.ends s).flatMap second.ends
  | alt first second => fun s => first.ends s ++ second.ends s
  | capture group body => fun s => (body.ends s).map (.capture group s)
  | loop .greedy min max body => fun s =>
    (body.ends.times min s).flatMap fun t => body.ends.greedy (spareRounds min max t) t
  | loop .lazy min max body => fun s =>
    (body.ends.times min s).flatMap fun t => body.ends.lazy (spareRounds min max t) t
  | loop .possessive min max body => fun s =>
    ((body.run.firsts min s).map fun t => body.run.rounds (spareRounds min max t) t).toList
  | atomic body => fun s => (body.run.first s).toList
  | ahead negated body => fun s =>
    match body.run.first s, negated with
    | some t, false => [{ s with groups := t.groups }]
    | none, true => [s]
    | _, _ => []
  | behind negated width body => fun s =>
    match (s.backward width).bind body.run.first, negated with
    | some t, false => [{ s with groups := t.groups }]
    | none, true => [s]
    | _, _ => []
  | backref mode group => fun s =>
    match s.captured? group with
    | none => []
    | some captured => (Cursor.across mode.same captured.text s).toList
  | conditional group yes no => fun s =>
    if (s.captured? group).isSome then yes.ends s else no.ends s

lemma ends_sequence_cons (node : Node) (nodes : List Node) (s : Cursor) :
    (Node.sequence (node :: nodes)).ends s = (node.ends s).flatMap (Node.sequence nodes).ends := by
  cases nodes with
  | nil => exact (List.flatMap_singleton' _).symm
  | cons _ _ => rfl

/-! ### Matchers that go through a list of ends -/

lemma findSome?_flatMap {α β γ : Type} (entries : List α) (f : α → List β) (k : β → Option γ) :
    (entries.flatMap f).findSome? k = entries.findSome? fun a => (f a).findSome? k := by
  induction entries with
  | nil => rfl
  | cons a entries ih =>
    rw [List.flatMap_cons, List.findSome?_append, ih, List.findSome?_cons]
    cases (f a).findSome? k <;> rfl

lemma findSome?_singleton {α β : Type} (a : α) (k : α → Option β) : [a].findSome? k = k a := by
  rw [List.findSome?_cons]
  cases k a <;> rfl

lemma findSome?_toList {α β : Type} (a : Option α) (k : α → Option β) :
    a.toList.findSome? k = a.bind k := by
  cases a with
  | none => rfl
  | some a => exact findSome?_singleton a k

/-- A matcher goes through a list of ends when it gives the first success of what follows. -/
def Matcher.GoesThrough (body : Matcher) (ends : Ends) : Prop :=
  ∀ s k, body s k = (ends s).findSome? k

section Loops

variable {body : Matcher} {ends : Ends}

lemma times_goesThrough (h : body.GoesThrough ends) (n : Nat) :
    Matcher.GoesThrough (body.times n) (ends.times n) := by
  intro s k
  induction n generalizing s with
  | zero => exact (findSome?_singleton s k).symm
  | succ n ih =>
    unfold Matcher.times Ends.times
    rw [h, findSome?_flatMap]
    congr 1
    funext t
    exact ih t

lemma greedy_goesThrough (h : body.GoesThrough ends) (n : Nat) :
    Matcher.GoesThrough (body.greedy n) (ends.greedy n) := by
  intro s k
  induction n generalizing s with
  | zero => exact (findSome?_singleton s k).symm
  | succ n ih =>
    have hround : (fun t => if t.left < s.left then body.greedy n t k else k t) =
        fun t => (if t.left < s.left then ends.greedy n t else [t]).findSome? k := by
      funext t
      split
      · exact ih t
      · exact (findSome?_singleton t k).symm
    unfold Matcher.greedy Ends.greedy
    rw [h, hround, List.findSome?_append, findSome?_flatMap, findSome?_singleton]
    cases (ends s).findSome? _ <;> rfl

lemma lazy_goesThrough (h : body.GoesThrough ends) (n : Nat) :
    Matcher.GoesThrough (body.lazy n) (ends.lazy n) := by
  intro s k
  induction n generalizing s with
  | zero => exact (findSome?_singleton s k).symm
  | succ n ih =>
    have hround : (fun t => if t.left < s.left then body.lazy n t k else k t) =
        fun t => (if t.left < s.left then ends.lazy n t else [t]).findSome? k := by
      funext t
      split
      · exact ih t
      · exact (findSome?_singleton t k).symm
    unfold Matcher.lazy Ends.lazy
    rw [h, hround, List.findSome?_cons, findSome?_flatMap]
    cases k s <;> rfl

end Loops

/-- Matching a node is going through its ends. -/
theorem run_goesThrough_ends (node : Node) : node.run.GoesThrough node.ends := by
  induction node with
  | empty =>
    intro s k
    exact (findSome?_singleton s k).symm
  | char mode test =>
    intro s k
    unfold Node.run Node.ends
    cases s.after with
    | nil => rfl
    | cons c rest =>
      dsimp only
      split
      · exact (findSome?_singleton _ k).symm
      · rfl
  | anchor place =>
    intro s k
    unfold Node.run Node.ends
    split
    · exact (findSome?_singleton s k).symm
    · rfl
  | cat first second ih₁ ih₂ =>
    intro s k
    unfold Node.run Node.ends
    rw [ih₁, findSome?_flatMap]
    congr 1
    funext t
    exact ih₂ t k
  | alt first second ih₁ ih₂ =>
    intro s k
    unfold Node.run Node.ends
    rw [List.findSome?_append, ← ih₁ s k, ← ih₂ s k]
    cases first.run s k <;> rfl
  | capture group body ih =>
    intro s k
    unfold Node.run Node.ends
    rw [ih, List.findSome?_map]
    rfl
  | loop greed min max body ih =>
    intro s k
    cases greed with
    | greedy =>
      unfold Node.run Node.ends Matcher.loop
      dsimp only
      rw [times_goesThrough ih, findSome?_flatMap]
      congr 1
      funext t
      exact greedy_goesThrough ih _ t k
    | lazy =>
      unfold Node.run Node.ends Matcher.loop
      dsimp only
      rw [times_goesThrough ih, findSome?_flatMap]
      congr 1
      funext t
      exact lazy_goesThrough ih _ t k
    | possessive =>
      unfold Node.run Node.ends Matcher.loop
      dsimp only
      rw [findSome?_toList, Option.bind_map]
      rfl
  | atomic body _ =>
    intro s k
    exact (findSome?_toList _ k).symm
  | ahead negated body _ =>
    intro s k
    unfold Node.run Node.ends
    cases body.run.first s <;> cases negated <;>
      first | rfl | exact (findSome?_singleton _ k).symm
  | behind negated width body _ =>
    intro s k
    unfold Node.run Node.ends
    cases (s.backward width).bind body.run.first <;> cases negated <;>
      first | rfl | exact (findSome?_singleton _ k).symm
  | backref mode group =>
    intro s k
    unfold Node.run Node.ends
    cases s.captured? group with
    | none => rfl
    | some captured => exact (findSome?_toList _ k).symm
  | conditional group yes no ih₁ ih₂ =>
    intro s k
    unfold Node.run Node.ends
    split
    · exact ih₁ s k
    · exact ih₂ s k

/-- The end that a node prefers is the first of its ends. -/
lemma first_eq_head? (node : Node) (s : Cursor) : node.run.first s = (node.ends s).head? := by
  unfold Matcher.first
  rw [run_goesThrough_ends]
  cases node.ends s <;> rfl

end SlopLint.Pattern
