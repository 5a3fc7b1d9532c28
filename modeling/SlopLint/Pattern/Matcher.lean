import SlopLint.Pattern.Folding

/-!
# Matching

A pattern is matched by backtracking: every node is given what should follow it as a continuation
and offers it the places it can end at, the preferred one first. The first place at which the
continuation succeeds decides the match. A place in a text is a cursor between the characters
before it and those after it.
-/

namespace SlopLint.Pattern

/-- The text that a group has taken: the characters from its start on, and how many of them. -/
structure Captured where
  start : List Char
  length : Nat
deriving DecidableEq, Repr

def Captured.text (captured : Captured) : List Char :=
  captured.start.take captured.length

/-- A place in a text, with what the groups have taken on the way to it. The characters before it
are listed from the nearest one; `left` counts those after it. -/
structure Cursor where
  before : List Char
  after : List Char
  left : Nat
  groups : List (Nat × Captured)
deriving DecidableEq, Repr

namespace Cursor

/-- The start of a text. -/
def atStart (text : List Char) : Cursor :=
  ⟨[], text, text.length, []⟩

def forward (s : Cursor) : Cursor :=
  match s.after with
  | [] => s
  | c :: rest => { s with before := c :: s.before, after := rest, left := s.left - 1 }

/-- Moves a number of characters to the left, if there are as many. -/
def backward : Nat → Cursor → Option Cursor
  | 0, s => some s
  | n + 1, s =>
    match s.before with
    | [] => none
    | c :: rest =>
      backward n { s with before := rest, after := c :: s.after, left := s.left + 1 }

/-- Moves over a text whose characters count as the same as those in front. -/
def across (same : Char → Char → Bool) : List Char → Cursor → Option Cursor
  | [], s => some s
  | c :: text, s =>
    match s.after with
    | [] => none
    | d :: _ => if same c d then across same text s.forward else none

/-- Records what a group has taken between two places. -/
def capture (group : Nat) (start stop : Cursor) : Cursor :=
  { stop with groups := (group, ⟨start.after, start.left - stop.left⟩) :: stop.groups }

/-- What a group has taken last. -/
def captured? (s : Cursor) (group : Nat) : Option Captured :=
  s.groups.lookup group

end Cursor

/-- Whether the characters on both sides of a place differ in being word characters. -/
def atBoundary (isWord : Char → Bool) (s : Cursor) : Bool :=
  s.before.head?.any isWord != s.after.head?.any isWord

/-- Whether a place is of the required kind. -/
def Anchor.holds (s : Cursor) : Anchor → Bool
  | textStart => s.before.isEmpty
  | lineStart => s.before.head?.all (· == '\n')
  | textEnd => s.after.isEmpty
  | beforeLastNewline => s.after.isEmpty || s.after == ['\n']
  | lineEnd => s.after.head?.all (· == '\n')
  | wordBoundary negated ascii =>
    atBoundary (if ascii then Text.isWordAscii else Text.isWord) s != negated

/-- What should follow a node: the end of the whole match, if there is one. -/
abbrev Continuation := Cursor → Option Cursor

/-- A node as a matcher. -/
abbrev Matcher := Cursor → Continuation → Option Cursor

/-- Exactly `n` rounds of a body. -/
def Matcher.times (body : Matcher) : Nat → Matcher
  | 0, s, k => k s
  | n + 1, s, k => body s fun t => times body n t k

/-- Up to `n` rounds of a body, as many as possible. A round that takes nothing is the last. -/
def Matcher.greedy (body : Matcher) : Nat → Matcher
  | 0, s, k => k s
  | n + 1, s, k =>
    match body s fun t => if t.left < s.left then greedy body n t k else k t with
    | some stop => some stop
    | none => k s

/-- Up to `n` rounds of a body, as few as possible. A round that takes nothing is the last. -/
def Matcher.lazy (body : Matcher) : Nat → Matcher
  | 0, s, k => k s
  | n + 1, s, k =>
    match k s with
    | some stop => some stop
    | none => body s fun t => if t.left < s.left then lazy body n t k else k t

/-- The place that a body prefers to end at, whatever follows. -/
def Matcher.first (body : Matcher) (s : Cursor) : Option Cursor :=
  body s some

/-- Up to `n` rounds of a body, each of them ending where it prefers. -/
def Matcher.rounds (body : Matcher) : Nat → Cursor → Cursor
  | 0, s => s
  | n + 1, s =>
    match body.first s with
    | none => s
    | some t => if t.left < s.left then rounds body n t else t

/-- Exactly `n` rounds of a body, each of them ending where it prefers. -/
def Matcher.firsts (body : Matcher) : Nat → Cursor → Option Cursor
  | 0, s => some s
  | n + 1, s => (body.first s).bind (firsts body n)

/-- How many rounds may follow the required ones. Without a bound, every round but the last takes
a character, so the characters that are left bound them. -/
def spareRounds (min : Nat) (max : Option Nat) (s : Cursor) : Nat :=
  match max with
  | some max => max - min
  | none => s.left + 1

/-- A repetition of a body. -/
def Matcher.loop (body : Matcher) (greed : Greed) (min : Nat) (max : Option Nat) : Matcher :=
  fun s k =>
    match greed with
    | .greedy => body.times min s fun t => body.greedy (spareRounds min max t) t k
    | .lazy => body.times min s fun t => body.lazy (spareRounds min max t) t k
    | .possessive =>
      (body.firsts min s).bind fun t => k (body.rounds (spareRounds min max t) t)

/-- The matcher of a node. -/
def Node.run : Node → Matcher
  | empty => fun s k => k s
  | char mode test => fun s k =>
    match s.after with
    | [] => none
    | c :: _ => if test.passes mode c then k s.forward else none
  | anchor place => fun s k => if place.holds s then k s else none
  | cat first second => fun s k => first.run s fun t => second.run t k
  | alt first second => fun s k =>
    match first.run s k with
    | some stop => some stop
    | none => second.run s k
  | capture group body => fun s k => body.run s fun t => k (.capture group s t)
  | loop greed min max body => body.run.loop greed min max
  | atomic body => fun s k => (body.run.first s).bind k
  | ahead negated body => fun s k =>
    match body.run.first s, negated with
    | some t, false => k { s with groups := t.groups }
    | none, true => k s
    | _, _ => none
  | behind negated width body => fun s k =>
    match (s.backward width).bind body.run.first, negated with
    | some t, false => k { s with groups := t.groups }
    | none, true => k s
    | _, _ => none
  | backref mode group => fun s k =>
    match s.captured? group with
    | none => none
    | some captured => (Cursor.across mode.same captured.text s).bind k
  | conditional group yes no => fun s k =>
    if (s.captured? group).isSome then yes.run s k else no.run s k

end SlopLint.Pattern
