/-!
# Glob patterns

In a glob pattern a star stands for any text, a question mark for any character, and brackets for
one character of a set; slashes are characters like any other. A pattern has to match a text as a
whole, and case counts.
-/

namespace SlopLint

inductive GlobPart where
  | star
  | any
  | char (c : Char)
  | oneOf (negated : Bool) (ranges : List (Char × Char))
deriving DecidableEq, Repr

namespace Glob

/-- Cuts the text of a set at the hyphens that can stand between two ends: the first one not in
front, and then each at least two characters behind the one before. -/
def chunks : Nat → List Char → List Char → List (List Char)
  | _, chunk, [] => [chunk.reverse]
  | 0, chunk, '-' :: rest => chunk.reverse :: chunks 2 [] rest
  | skip, chunk, c :: rest => chunks (skip - 1) (c :: chunk) rest

/-- A hyphen at the end stands for itself. -/
def closeChunks : List (List Char) → List (List Char)
  | [chunk, []] => [chunk ++ ['-']]
  | chunk :: rest => chunk :: closeChunks rest
  | [] => []

/-- Joins chunks between which the range would be empty, without its two ends. -/
def dropEmptyRanges : List (List Char) → List (List Char)
  | [] => []
  | chunk :: rest =>
    match dropEmptyRanges rest with
    | [] => [chunk]
    | next :: others =>
      match chunk.getLast?, next.head? with
      | some last, some first =>
        if first < last then (chunk.dropLast ++ next.drop 1) :: others
        else chunk :: next :: others
      | _, _ => chunk :: next :: others

/-- The characters and ranges that chunks stand for: a range between two neighbours, and every
other character by itself. -/
def rangesOf : Option Char → List (List Char) → List (Char × Char)
  | none, [] => []
  | some low, [] => [(low, low)]
  | none, chunk :: rest =>
    chunk.dropLast.map (fun c => (c, c)) ++ rangesOf chunk.getLast? rest
  | some low, chunk :: rest =>
    (low, chunk.head?.getD low) :: (chunk.drop 1).dropLast.map (fun c => (c, c)) ++
      rangesOf (chunk.drop 1).getLast? rest

/-- The set that chunks stand for. An exclamation mark in front negates it; a hyphen right behind
that mark stands for itself. -/
def setOf : List (List Char) → GlobPart
  | ['!'] :: chunk :: rest => .oneOf true (rangesOf none (('-' :: chunk) :: rest))
  | ('!' :: chunk) :: rest => .oneOf true (rangesOf none (chunk :: rest))
  | chunks => .oneOf false (rangesOf none chunks)

/-- The set that the text between brackets stands for. A hyphen behind the first character, or
behind the one after an exclamation mark, is the first that can stand between two ends. -/
def setPart (body : List Char) : GlobPart :=
  let skip := if body.head? = some '!' then 2 else 1
  setOf (dropEmptyRanges (closeChunks (chunks skip [] body)))

/-- The text up to the bracket that closes a set, and what is behind it; a bracket in front, or
right behind an exclamation mark, belongs to the set. -/
def splitSet (text : List Char) : Option (List Char × List Char) :=
  let (negation, rest) :=
    match text with
    | '!' :: rest => (['!'], rest)
    | _ => ([], text)
  let (first, rest) :=
    match rest with
    | ']' :: rest => ([']'], rest)
    | _ => ([], rest)
  match rest.dropWhile (· != ']') with
  | [] => none
  | _ :: after => some (negation ++ first ++ rest.takeWhile (· != ']'), after)

/-- The parts of a pattern; an opening bracket without a closing one stands for itself. -/
def partsFrom : Nat → List Char → List GlobPart
  | 0, _ => []
  | _ + 1, [] => []
  | fuel + 1, c :: rest =>
    if c = '*' then .star :: partsFrom fuel rest
    else if c = '?' then .any :: partsFrom fuel rest
    else if c = '[' then
      match splitSet rest with
      | some (body, after) => setPart body :: partsFrom fuel after
      | none => .char c :: partsFrom fuel rest
    else .char c :: partsFrom fuel rest

/-- The parts of a pattern. -/
def parts (pattern : String) : List GlobPart :=
  partsFrom pattern.length pattern.toList

/-- Whether a part other than a star takes a character. -/
def takes (c : Char) : GlobPart → Bool
  | .star => true
  | .any => true
  | .char d => c == d
  | .oneOf negated ranges => ranges.any (fun (lo, hi) => lo ≤ c && c ≤ hi) != negated

/-- Whether parts that follow a star match some end of the text. -/
def someEnd (matchesRest : List Char → Bool) : List Char → Bool
  | [] => matchesRest []
  | c :: rest => matchesRest (c :: rest) || someEnd matchesRest rest

/-- Whether the parts match the whole text. -/
def matchParts : List GlobPart → List Char → Bool
  | [], text => text.isEmpty
  | .star :: parts, text => someEnd (matchParts parts) text
  | part :: parts, c :: text => takes c part && matchParts parts text
  | _ :: _, [] => false

def accepts (pattern text : String) : Bool :=
  matchParts (parts pattern) text.toList

end Glob

end SlopLint
