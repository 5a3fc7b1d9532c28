import SlopLint.Pattern.Reader
import SlopLint.Pattern.Search
import SlopLint.Text.Lines

/-!
# Scopes

Which function a line belongs to, and whether errors are handled there, is estimated from key
words and braces alone. Lines are addressed by integers: an index beyond the last line is a fault
as soon as that line is needed, and a negative one counts from the end.
-/

namespace SlopLint.Scope

open Text

/-- A line was needed that the file does not have. -/
structure OutOfRange where
  index : Int
deriving DecidableEq, Repr

/-- The line that an index names. -/
def lineAt (lines : List Line) (index : Int) : Except OutOfRange Line :=
  match nth? lines index with
  | some line => .ok line
  | none => .error ⟨index⟩

/-- How many lines above a line its function may start. -/
def lookback : Nat := 20

/-- How many lines from a line on its function may end. -/
def lookahead : Nat := 20

/-- How many lines around a line are searched when it is in no function. -/
def fallbackWindow : Nat := 2

/-- How many lines a chain of calls may take. -/
def chainLookahead : Nat := 5

/-- How many lines above a lone brace its clause may start. -/
def clauseLookback : Nat := 4

/-- A line that starts a function, or a component's state. -/
def opensFunction (line : Line) : Bool :=
  has line "function" || has line "=>" ||
    (has line "const" && hasAny line ["useState", "useEffect", "useCallback", "useMemo"])

/-- A line that handles errors. -/
def hasGuard (line : Line) : Bool :=
  hasAny line [".catch(", "try \x7b", "try\x7b"]

/-- A line at which a function may start; `previous` is the line above it, if there is one. -/
def isAnchor (previous : Option Line) (line : Line) : Bool :=
  (opensFunction line && (has line "\x7b" || has line "=>")) ||
    previous.any fun previous => has (previous ++ line) "=>" && (strip line).head? == some '\x7b'

/-- The nearest anchor from line `i` upwards, over `steps` lines. -/
def findAnchor (lines : List Line) : Nat → Nat → Except OutOfRange (Option Nat)
  | 0, _ => .ok none
  | steps + 1, i => do
    let line ← lineAt lines i
    let previous := if i = 0 then none else lines[i - 1]?
    if isAnchor previous line then pure (some i)
    else
      match i with
      | 0 => pure none
      | i + 1 => findAnchor lines steps i

/-- How deep the braces are nested, and whether the first line has opened the body. -/
structure Depth where
  depth : Int := 0
  entered : Bool := false
deriving DecidableEq

/-- Goes over a line; the answer is `none` as soon as the body is closed on it. -/
def Depth.across (onAnchor : Bool) : Depth → Line → Option Depth
  | d, [] => some d
  | d, c :: rest =>
    if c == '\x7b' then
      across onAnchor ⟨d.depth + 1, d.entered || (onAnchor && d.depth + 1 == 1)⟩ rest
    else if c == '\x7d' then
      if d.entered && d.depth - 1 == 0 then none
      else across onAnchor { d with depth := d.depth - 1 } rest
    else across onAnchor d rest

/-- The line on which the body is closed; `i` is the number of the first of the lines. -/
def closingLine (start : Nat) : Nat → Depth → List Line → Option Nat
  | _, _, [] => none
  | i, d, line :: rest =>
    match d.across (i == start) line with
    | none => some i
    | some d => closingLine start (i + 1) d rest

/-- The first and the last line of the function that a line belongs to. Its body has to open on
the line it starts at. -/
def functionScope (lines : List Line) (index : Int) : Except OutOfRange (Option (Nat × Nat)) :=
  if index < 0 then .ok none
  else do
    let i := index.toNat
    match ← findAnchor lines (min i lookback + 1) i with
    | none => pure none
    | some start =>
      let body := (lines.take (i + lookahead)).drop start
      pure ((closingLine start start {} body).map fun stop => (start, stop))

/-- Whether a chain of calls is caught before it ends; it ends at a semicolon, unless its line is
continued. -/
def chainIsCaught : List Line → Bool
  | [] => false
  | line :: rest =>
    if has line ".catch(" then true
    else
      let last := (strip line).getLast?
      if has line ";" && last != some '\\' && last != some ',' then false
      else chainIsCaught rest

/-- Whether the call on a line has its errors handled, in its function or in its chain. -/
def isCallHandled (lines : List Line) (index : Int) : Except OutOfRange Bool := do
  let window :=
    match ← functionScope lines index with
    | some (start, stop) => range lines start (stop + 1)
    | none =>
      range lines (max 0 (index - fallbackWindow))
        (min lines.length (index + fallbackWindow + 1))
  if window.any hasGuard then pure true
  else
    let current ← lineAt lines index
    if has current ".then(" || has current ".catch(" then
      pure (chainIsCaught (range lines index (min lines.length (index + chainLookahead))))
    else pure false

/-- A `catch` clause at the end of a text, in front of its opening brace. -/
def catchClause : Pattern :=
  .known {} "\\bcatch\\b\\s*(?:\\([^)]*\\))?\\s*$"

/-- Whether a brace opens a block that handles errors. `head` is the text before it on its line,
and `above` are the lines above, the nearest one first; they count when the brace stands alone. -/
def opensCatch (above : List Line) (head : List Char) : Bool :=
  if catchClause.occursIn (stripRight head) || has head ".catch(" then true
  else if !(strip head).isEmpty then false
  else
    match (above.take clauseLookback).find? fun line => !(strip line).isEmpty with
    | some line => catchClause.occursIn (strip line)
    | none => false

/-- What is known on the way back: how many closing braces wait for their opening one, and whether
a block that handles errors has been passed. -/
structure Retreat where
  depth : Nat := 0
  seenCatch : Bool := false
deriving DecidableEq

/-- Goes back over a line, given in reverse; the answer is `none` as soon as the place is known to
be guarded. -/
def Retreat.across (above : List Line) : Retreat → List Char → Option Retreat
  | b, [] => some b
  | b, c :: rest =>
    if c == '\x7d' then across above { b with depth := b.depth + 1 } rest
    else if c == '\x7b' then
      let opens := opensCatch above rest.reverse
      match b.depth with
      | 0 => if opens then none else across above b rest
      | depth + 1 =>
        let seenCatch := b.seenCatch || opens
        if depth == 0 && seenCatch then none else across above ⟨depth, seenCatch⟩ rest
    else across above b rest

/-- Whether the end of the first of the lines is guarded; the others are those above it, the
nearest one first. -/
def guardedFrom : Retreat → List Line → Bool
  | _, [] => false
  | b, line :: above =>
    match b.across above line.reverse with
    | none => true
    | some b => guardedFrom b above

/-- Whether a place is in code that handles errors, or right behind such code. A column limits the
line to the text before it. -/
def isGuarded (lines : List Line) (index : Int) (column : Option Int) :
    Except OutOfRange Bool :=
  if index < 0 then .ok false
  else do
    let line ← lineAt lines index
    let head :=
      match column with
      | none => line
      | some column => line.take (column - 1).toNat
    pure (guardedFrom {} (head :: (lines.take index.toNat).reverse))

end SlopLint.Scope
