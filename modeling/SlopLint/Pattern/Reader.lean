import SlopLint.Pattern.Fault
import SlopLint.Pattern.Width
import SlopLint.Text.Identifier

/-!
# Reading patterns

The text of a pattern is a list of tokens, each a character or a backslash with the character
behind it. The reader goes over the tokens once, keeps account of the groups it has opened and
closed, and stops at the first fault. Whether every look-behind has a fixed width, and whether
repetitions are allowed at all, is told only after the whole text has been read.

Reading takes two things from the system: the names of characters, and a stack for the groups inside
each other.
-/

namespace SlopLint.Pattern

/-- The flags in force at a place of a pattern. -/
structure Flags where
  ignoreCase : Bool := false
  multiline : Bool := false
  dotAll : Bool := false
  verbose : Bool := false
  ascii : Bool := false
  unicode : Bool := false
  template : Bool := false
deriving DecidableEq, Repr

/-- The mode of the character tests under these flags. -/
def Flags.mode (flags : Flags) : Mode :=
  ⟨flags.ignoreCase, flags.ascii⟩

/-- The flags of a group that turns some on and others off. Asking for one alphabet takes the
other one away. -/
def Flags.scoped (flags on off : Flags) : Flags where
  ignoreCase := (flags.ignoreCase || on.ignoreCase) && !off.ignoreCase
  multiline := (flags.multiline || on.multiline) && !off.multiline
  dotAll := (flags.dotAll || on.dotAll) && !off.dotAll
  verbose := (flags.verbose || on.verbose) && !off.verbose
  ascii := on.ascii || (flags.ascii && !on.unicode)

/-- The flags that are in one of the two sets. -/
def Flags.union (a b : Flags) : Flags where
  ignoreCase := a.ignoreCase || b.ignoreCase
  multiline := a.multiline || b.multiline
  dotAll := a.dotAll || b.dotAll
  verbose := a.verbose || b.verbose
  ascii := a.ascii || b.ascii
  unicode := a.unicode || b.unicode
  template := a.template || b.template

/-- Whether two sets of flags have one in common. -/
def Flags.meets (a b : Flags) : Bool :=
  (a.ignoreCase && b.ignoreCase) || (a.multiline && b.multiline) || (a.dotAll && b.dotAll) ||
    (a.verbose && b.verbose)

/-- What the reader takes from the system that it runs on. -/
class Platform where
  /-- The character that goes by a name. -/
  character? : String → Option Char
  /-- What is told when the stack is too small for a text under the given flags. -/
  overflow? : Flags → String → Option String
  /-- A number of groups for which the stack is never too small, however they lie. -/
  room : Nat
  overflow?_eq_none : ∀ flags source, source.toList.count '(' ≤ room →
    overflow? flags source = none

/-- How many groups are open at once in a text, at most, behind some that are open before it. -/
def openedAtOnce (opened : Nat) : List Char → Nat
  | [] => opened
  | c :: rest =>
    if c = '(' then openedAtOnce (opened + 1) rest
    else if c = ')' then max opened (openedAtOnce (opened - 1) rest)
    else openedAtOnce opened rest

theorem openedAtOnce_le (opened : Nat) (text : List Char) :
    openedAtOnce opened text ≤ opened + text.count '(' := by
  induction text generalizing opened with
  | nil => exact Nat.le_add_right _ _
  | cons c rest ih =>
    rw [openedAtOnce]
    split
    next hc =>
      have hrest := ih (opened + 1)
      rw [hc, List.count_cons_self]
      omega
    next hc =>
      rw [List.count_cons_of_ne hc]
      split
      · have hrest := ih (opened - 1)
        omega
      · exact ih opened

/-- A system that knows no names of characters and has a stack for so many groups inside each
other. -/
abbrev Platform.withRoom (room : Nat) : Platform where
  character? _ := none
  overflow? _ source :=
    if openedAtOnce 0 source.toList ≤ room then none else some "maximum recursion depth exceeded"
  room := room
  overflow?_eq_none _ source h :=
    if_pos (Nat.le_trans (openedAtOnce_le 0 source.toList) (by rwa [Nat.zero_add]))

/-- What the reader knows in front of the characters that are left. -/
structure Reading where
  rest : List Char
  groups : Nat := 1
  names : List (String × Nat) := []
  widths : List (Nat × Width) := []
  barrier : Option Nat := none
  tested : List (Nat × Nat) := []
  flags : Flags
  hasWideLookbehind : Bool := false

/-- A token: a character, or a backslash with the character behind it. -/
inductive Token where
  | plain (c : Char)
  | escaped (c : Char)
deriving DecidableEq, Repr

def Token.chars : Token → List Char
  | plain c => [c]
  | escaped c => ['\\', c]

def Token.text (token : Token) : String := String.ofList token.chars

/-- Fails at the place that lies `back` characters before the characters that are left. -/
def failBack {α : Type} (cause : Cause) (back : Nat) (r : Reading) : Except Fault α :=
  .error (.malformed cause (some (r.rest.length + back)))

namespace Reading

def peek (r : Reading) : Option Token :=
  match r.rest with
  | [] => none
  | '\\' :: c :: _ => some (.escaped c)
  | c :: _ => some (.plain c)

/-- Whether the token in front is the given character. -/
def sees (r : Reading) (c : Char) : Bool :=
  r.peek == some (.plain c)

/-- Moves to what is left; a backslash that ends the pattern is refused as soon as it is in front. -/
def moveTo (r : Reading) (rest : List Char) : Except Fault Reading :=
  if rest = ['\\'] then .error (.malformed .danglingEscape (some 1)) else .ok { r with rest }

/-- Moves behind the token in front. -/
def advance (r : Reading) : Except Fault Reading :=
  r.moveTo (match r.rest with
    | '\\' :: _ :: rest => rest
    | rest => rest.drop 1)

/-- Moves behind the given character if it is in front. -/
def accept (r : Reading) (c : Char) : Except Fault (Bool × Reading) :=
  if r.sees c then do pure (true, ← r.advance) else .ok (false, r)

/-- Takes the token in front, if there is one. -/
def next (r : Reading) : Except Fault (Option Token × Reading) :=
  do pure (r.peek, ← r.advance)

/-- Whether a group has been opened and closed. -/
def isClosed (r : Reading) (group : Nat) : Bool :=
  (r.widths.lookup group).isSome

/-- Inside a look-behind, only groups that were closed before it may be referred to. -/
def checkBarrier (r : Reading) (group : Nat) : Except Fault Unit :=
  match r.barrier with
  | none => .ok ()
  | some barrier =>
    if !r.isClosed group then failBack .openGroup 0 r
    else if barrier ≤ group then failBack .sameLookbehind 0 r
    else .ok ()

/-- Opens a group, under a name if it has one. -/
def openGroup (r : Reading) (name : Option String) : Except Fault (Nat × Reading) :=
  let group := r.groups
  match name with
  | none => .ok (group, { r with groups := group + 1 })
  | some name =>
    match r.names.lookup name with
    | some earlier => failBack (.redefinedGroup name group earlier) (name.length + 1) r
    | none => .ok (group, { r with groups := group + 1, names := (name, group) :: r.names })

def closeGroup (r : Reading) (group : Nat) (body : Node) : Reading :=
  { r with widths := (group, body.width r.widths) :: r.widths }

end Reading

/-- Up to `n` tokens that are single characters of a class. -/
def takeUpTo (holds : Char → Bool) : Nat → Reading → Except Fault (List Char × Reading)
  | 0, r => .ok ([], r)
  | n + 1, r =>
    match r.peek with
    | some (.plain c) =>
      if holds c then do
        let r ← r.advance
        let (cs, r) ← takeUpTo holds n r
        pure (c :: cs, r)
      else .ok ([], r)
    | _ => .ok ([], r)

/-- An ASCII digit below eight. -/
def isOctal (c : Char) : Bool := '0' ≤ c && c ≤ '7'

/-- An ASCII hexadecimal digit. -/
def isHexadecimal (c : Char) : Bool :=
  c.isDigit || ('a' ≤ c && c ≤ 'f') || ('A' ≤ c && c ≤ 'F')

/-- The value of digits in a base up to sixteen. -/
def valueOf (base : Nat) (ds : List Char) : Nat :=
  ds.foldl (fun n c =>
    n * base + (if c.isDigit then c.toNat - 48 else c.toLower.toNat - 87)) 0

inductive Escape where
  | code (n : Nat)
  | category (negated : Bool) (kind : Category)
  | anchor (place : Anchor)
  | group (n : Nat)

/-- The escapes that name a class of characters. -/
def categoryEscape? : Char → Option (Bool × Category)
  | 'd' => some (false, .digit)
  | 'D' => some (true, .digit)
  | 's' => some (false, .blank)
  | 'S' => some (true, .blank)
  | 'w' => some (false, .word)
  | 'W' => some (true, .word)
  | _ => none

/-- The escapes that name a control character. -/
def controlEscape? : Char → Option Nat
  | 'a' => some 7
  | 'b' => some 8
  | 'f' => some 12
  | 'n' => some 10
  | 'r' => some 13
  | 't' => some 9
  | 'v' => some 11
  | _ => none

/-- The escapes that name a place. -/
def anchorEscape? (ascii : Bool) : Char → Option Anchor
  | 'A' => some .textStart
  | 'b' => some (.wordBoundary false ascii)
  | 'B' => some (.wordBoundary true ascii)
  | 'Z' => some .textEnd
  | _ => none

def readName (terminator : Char) (what : String) :
    Nat → List Char → Reading → Except Fault (String × Reading)
  | 0, _, r => failBack .unexpectedEnd 0 r
  | fuel + 1, read, r => do
    let (token, r) ← r.next
    match token with
    | none =>
      if read.isEmpty then failBack (.missingName what) 0 r
      else failBack (.unterminatedName terminator.toString) read.length r
    | some token =>
      if token == .plain terminator then
        if read.isEmpty then failBack (.missingName what) 1 r
        else pure (String.ofList read, r)
      else readName terminator what fuel (read ++ token.chars) r

/-- The number of an escape is below this bound, whether there is such a character or not. -/
def codeBound : Nat := 2147483648

/-- An escape with exactly `count` hexadecimal digits behind its letter. -/
def hexEscape (letter : Char) (count : Nat) (r : Reading) : Except Fault (Escape × Reading) := do
  let (ds, r) ← takeUpTo isHexadecimal count r
  let escape := '\\' :: letter :: ds
  if ds.length ≠ count then failBack (.incompleteEscape (String.ofList escape)) escape.length r
  else if codeBound ≤ valueOf 16 ds then .error (.beyond .codePoint)
  else if 0x10FFFF < valueOf 16 ds then
    failBack (.badEscape (String.ofList escape)) escape.length r
  else pure (.code (valueOf 16 ds), r)

variable [Platform]

/-- An escape that names its character. -/
def namedEscape (r : Reading) : Except Fault (Escape × Reading) := do
  let (opened, r) ← r.accept '\x7b'
  if !opened then failBack .missingBrace 0 r
  else
    let (name, r) ← readName '\x7d' "character name" (r.rest.length + 1) [] r
    match Platform.character? name with
    | some c => pure (.code c.toNat, r)
    | none => failBack (.unknownCharacterName name) (name.length + 4) r

/-- An escape whose number is written in octal. -/
def octalEscape (ds : List Char) (r : Reading) : Except Fault (Escape × Reading) :=
  if 0o377 < valueOf 8 ds then
    failBack (.octalTooLarge (String.ofList ('\\' :: ds))) (ds.length + 1) r
  else .ok (.code (valueOf 8 ds), r)

/-- An escape that stands for its own character; letters and digits do not. -/
def plainEscape (c : Char) (r : Reading) : Except Fault (Escape × Reading) :=
  if c.isAlphanum then failBack (.badEscape (String.ofList ['\\', c])) 2 r
  else .ok (.code c.toNat, r)

/-- What an escape inside a set stands for; `r` is behind its letter. -/
def setEscape (c : Char) (r : Reading) : Except Fault (Escape × Reading) :=
  match controlEscape? c, categoryEscape? c with
  | some n, _ => .ok (.code n, r)
  | none, some (negated, kind) => .ok (.category negated kind, r)
  | none, none =>
    if c = 'x' then hexEscape c 2 r
    else if c = 'u' then hexEscape c 4 r
    else if c = 'U' then hexEscape c 8 r
    else if c = 'N' then namedEscape r
    else if isOctal c then do
      let (ds, r) ← takeUpTo isOctal 2 r
      octalEscape (c :: ds) r
    else plainEscape c r

/-- A reference to a group by its number. -/
def groupEscape (ds : List Char) (r : Reading) : Except Fault (Escape × Reading) :=
  let group := valueOf 10 ds
  if group < r.groups then
    if !r.isClosed group then failBack .openGroup (ds.length + 1) r
    else do
      r.checkBarrier group
      pure (.group group, r)
  else failBack (.noSuchGroup group) ds.length r

/-- An escape that starts with a digit other than zero: an octal number of three digits, or else a
reference to a group. -/
def digitEscape (c : Char) (r : Reading) : Except Fault (Escape × Reading) := do
  let (second, r) ← takeUpTo Char.isDigit 1 r
  let (third, r) ←
    if isOctal c && second.any isOctal then takeUpTo isOctal 1 r else pure ([], r)
  if third.isEmpty then groupEscape (c :: second) r else octalEscape (c :: second ++ third) r

/-- What an escape outside of sets stands for; `r` is behind its letter. -/
def escapeMeaning (ascii : Bool) (c : Char) (r : Reading) : Except Fault (Escape × Reading) :=
  match anchorEscape? ascii c, categoryEscape? c, controlEscape? c with
  | some place, _, _ => .ok (.anchor place, r)
  | none, some (negated, kind), _ => .ok (.category negated kind, r)
  | none, none, some n => .ok (.code n, r)
  | none, none, none =>
    if c = 'x' then hexEscape c 2 r
    else if c = 'u' then hexEscape c 4 r
    else if c = 'U' then hexEscape c 8 r
    else if c = 'N' then namedEscape r
    else if c = '0' then do
      let (ds, r) ← takeUpTo isOctal 2 r
      pure (.code (valueOf 8 ds), r)
    else if c.isDigit then digitEscape c r
    else plainEscape c r

/-- One end of a range, or a member of its own. -/
def setMember (token : Token) (r : Reading) : Except Fault (SetItem × Reading) :=
  match token with
  | .plain c => .ok (.code c.toNat, r)
  | .escaped c => do
    let (meaning, r) ← setEscape c r
    match meaning with
    | .category negated kind => pure (.category negated kind, r)
    | .code n => pure (.code n, r)
    | _ => failBack (.badEscape token.text) 2 r

/-- The members of a set up to its closing bracket, last one first; `start` is what was left at
the opening bracket. -/
def readItems (start : Nat) : Nat → List SetItem → Reading → Except Fault (List SetItem × Reading)
  | 0, _, r => failBack .unterminatedSet 0 r
  | fuel + 1, items, r => do
    let unterminated {α : Type} : Except Fault α :=
      .error (.malformed .unterminatedSet (some start))
    let (token, r) ← r.next
    match token with
    | none => unterminated
    | some first =>
      if first == .plain ']' && !items.isEmpty then pure (items, r)
      else
        let (low, r) ← setMember first r
        let (dashed, r) ← r.accept '-'
        if !dashed then readItems start fuel (low :: items) r
        else
          let (token, r) ← r.next
          match token with
          | none => unterminated
          | some last =>
            if last == .plain ']' then pure (.code 45 :: low :: items, r)
            else
              let (high, r) ← setMember last r
              let bad {α : Type} : Except Fault α :=
                failBack (.badRange first.text last.text)
                  (first.chars.length + 1 + last.chars.length) r
              match low, high with
              | .code lo, .code hi =>
                if hi < lo then bad else readItems start fuel (.range lo hi :: items) r
              | _, _ => bad

/-- A set, from behind its opening bracket. A set of one character is a test for it. -/
def readSet (mode : Mode) (r : Reading) : Except Fault (Node × Reading) := do
  let start := r.rest.length + 1
  let (negated, r) ← r.accept '^'
  let (items, r) ← readItems start (r.rest.length + 1) [] r
  match items.reverse.eraseDups with
  | [.code n] => pure (.char mode (.code negated n), r)
  | items => pure (.char mode (.set negated items), r)

/-- The kinds of items that a repetition may follow or may not. -/
inductive Repeatable where
  | yes
  | place
  | repeated
deriving DecidableEq

/-- The largest count of a repetition is below this bound. -/
def countBound : Nat := 4294967295

/-- The number that the digits of a count denote. -/
def readCount (ds : List Char) : Except Fault Nat :=
  if 4300 < ds.length then .error (.numberTooLong ds.length)
  else if countBound ≤ valueOf 10 ds then .error (.beyond .repetition)
  else .ok (valueOf 10 ds)

/-- The counts of a repetition in braces, from behind the opening brace; without a closing brace
the opening one stands for itself. -/
def readBraces (r : Reading) : Except Fault (Option (Nat × Option Nat) × Reading) := do
  let here := r.rest.length
  if r.sees '\x7d' then pure (none, r)
  else
    let (low, after) ← takeUpTo Char.isDigit here r
    let (ranged, after) ← after.accept ','
    let (high, after) ← if ranged then takeUpTo Char.isDigit here after else pure (low, after)
    let (closed, after) ← after.accept '\x7d'
    if !closed then pure (none, r)
    else
      let min ← if low.isEmpty then pure 0 else readCount low
      let max ← if high.isEmpty then pure none else do pure (some (← readCount high))
      if max.any (· < min) then .error (.malformed .minAboveMax (some here))
      else pure (some (min, max), after)

/-- The counts of a repetition, from behind its first character. -/
def readCounts (c : Char) (r : Reading) : Except Fault (Option (Nat × Option Nat) × Reading) :=
  if c = '?' then .ok (some (0, some 1), r)
  else if c = '*' then .ok (some (0, none), r)
  else if c = '+' then .ok (some (1, none), r)
  else readBraces r

def flag? : Char → Option Flags
  | 'i' => some { ignoreCase := true }
  | 'm' => some { multiline := true }
  | 's' => some { dotAll := true }
  | 'x' => some { verbose := true }
  | 'a' => some { ascii := true }
  | 'u' => some { unicode := true }
  | 't' => some { template := true }
  | 'L' => some {}
  | _ => none

/-- A letter where a flag or the end of the flags should stand. -/
def failFlag {α : Type} (token : Token) (otherwise : Cause) (r : Reading) : Except Fault α :=
  let cause :=
    match token with
    | .plain c => if Text.isLetter c then .unknownFlag else otherwise
    | .escaped _ => otherwise
  failBack cause token.chars.length r

/-- The flags to turn on, up to the character that ends them. -/
def readFlagsOn : Nat → Flags → Char → Reading → Except Fault (Flags × Char × Reading)
  | 0, _, _, r => failBack .unexpectedEnd 0 r
  | fuel + 1, on, c, r =>
    if c = 'L' then failBack .localeFlag 0 r
    else
      let on := on.union ((flag? c).getD {})
      if on.ascii && on.unicode then failBack .conflictingFlags 0 r
      else do
        let (token, r) ← r.next
        match token with
        | none => failBack .missingFlagEnd 0 r
        | some token =>
          match token with
          | .plain c =>
            if c == ')' || c == '-' || c == ':' then pure (on, c, r)
            else if (flag? c).isSome then readFlagsOn fuel on c r
            else failFlag token .missingFlagEnd r
          | .escaped _ => failFlag token .missingFlagEnd r

/-- The flags to turn off, up to the colon that ends them. -/
def readFlagsOff : Nat → Flags → Char → Reading → Except Fault (Flags × Reading)
  | 0, _, _, r => failBack .unexpectedEnd 0 r
  | fuel + 1, off, c, r =>
    if c == 'a' || c == 'u' || c == 'L' then failBack .classFlagTurnedOff 0 r
    else do
      let off := off.union ((flag? c).getD {})
      let (token, r) ← r.next
      match token with
      | none => failBack .missingColon 0 r
      | some (.plain c) =>
        if c == ':' then pure (off, r)
        else if (flag? c).isSome then readFlagsOff fuel off c r
        else failFlag (.plain c) .missingColon r
      | some token => failFlag token .missingColon r

/-- What the flags of a group do: set them for the whole pattern, or for the group alone. -/
inductive FlagGroup where
  | whole (on : Flags)
  | scoped (on off : Flags)

/-- The flags of a group, from behind the first character `c` of them. -/
def readFlags (c : Char) (r : Reading) : Except Fault (FlagGroup × Reading) := do
  let fuel := r.rest.length + 1
  let (on, ending, r) ← if c = '-' then pure ({}, '-', r) else readFlagsOn fuel {} c r
  if ending = ')' then pure (.whole on, r)
  else if on.template then failBack .flagTurnedOn 1 r
  else
    let (off, r) ←
      if ending = '-' then do
        let (token, r) ← r.next
        match token with
        | none => failBack .missingFlag 0 r
        | some (.plain c) =>
          if (flag? c).isSome then readFlagsOff fuel {} c r else failFlag (.plain c) .missingFlag r
        | some token => failFlag token .missingFlag r
      else pure ({}, r)
    if off.template then failBack .flagTurnedOff 1 r
    else if on.meets off then failBack .flagOnAndOff 1 r
    else pure (.scoped on off, r)

/-- Skips a comment up to its closing parenthesis; `start` is what was left at the opening one. -/
def skipComment (start : Nat) : Nat → Reading → Except Fault Reading
  | 0, r => failBack .unterminatedComment 0 r
  | fuel + 1, r =>
    match r.peek with
    | none => .error (.malformed .unterminatedComment (some start))
    | some token => do
      let r ← r.advance
      if token == .plain ')' then pure r else skipComment start fuel r

/-- Skips to the end of the line. -/
def skipLine : Nat → Reading → Except Fault Reading
  | 0, r => .ok r
  | fuel + 1, r => do
    let (token, r) ← r.next
    if token.isNone || token == some (.plain '\n') then pure r else skipLine fuel r

/-- The whole number that a text denotes, with blanks around it, a sign, and single low lines
between its digits. -/
def wholeNumber? (text : List Char) : Option Int :=
  let unsigned (ds : List Char) : Option Int := do
    let groups := Text.splitOnChar '_' ds
    if groups.any List.isEmpty then none
    else
      let values ← (groups.flatten).mapM Text.digitValue?
      if 4300 < values.length then none
      else pure (values.foldl (fun n d => n * 10 + d) 0 : Nat)
  match Text.strip text with
  | '-' :: ds => (unsigned ds).map (- ·)
  | '+' :: ds => unsigned ds
  | ds => unsigned ds

/-- The number of groups of a pattern stays below this bound. -/
def groupBound : Nat := 2147483647

/-- The group that a conditional tests, from behind its opening parenthesis. -/
def readCondition (r : Reading) : Except Fault (Nat × Reading) := do
  let (name, r) ← readName ')' "group name" (r.rest.length + 1) [] r
  let back := name.length + 1
  if Text.isIdentifier name.toList then
    match r.names.lookup name with
    | none => failBack (.unknownGroupName name) back r
    | some group =>
      r.checkBarrier group
      pure (group, r)
  else
    match wholeNumber? name.toList with
    | none => failBack (.badGroupName name) back r
    | some n =>
      if n < 0 then failBack (.badGroupName name) back r
      else if n = 0 then failBack .badGroupNumber back r
      else
        let group := n.toNat
        if groupBound ≤ group then failBack (.noSuchGroup group) back r
        else
          let known := (r.tested.lookup group).isSome
          let tested := if known then r.tested else r.tested ++ [(group, r.rest.length + back)]
          let r := { r with tested }
          r.checkBarrier group
          pure (group, r)

/-- A reference to a group by its name, from behind the equals sign. -/
def readNamedReference (r : Reading) : Except Fault (Nat × Reading) := do
  let (name, r) ← readName ')' "group name" (r.rest.length + 1) [] r
  let back := name.length + 1
  if !Text.isIdentifier name.toList then failBack (.badGroupName name) back r
  else
    match r.names.lookup name with
    | none => failBack (.unknownGroupName name) back r
    | some group =>
      if !r.isClosed group then failBack .openGroup back r
      else
        r.checkBarrier group
        pure (group, r)

/-- The name of a group, from behind the opening angle bracket. -/
def readGroupName (r : Reading) : Except Fault (String × Reading) := do
  let (name, r) ← readName '>' "group name" (r.rest.length + 1) [] r
  if Text.isIdentifier name.toList then pure (name, r)
  else failBack (.badGroupName name) (name.length + 1) r

/-- Looking behind is possible over a fixed width; one that no count can have does not count as
fixed. -/
def lookbehindCause? (width : Width) : Option Cause :=
  if width.max = some width.min ∧ width.min < countBound then none else some .variableLookbehind

/-- A fixed width to look behind over is below this bound. -/
def lookbehindBound : Nat := 2147483648

/-- What stands in front of a group's body. -/
inductive GroupKind where
  | nothing
  | whole (on : Flags)
  | reference (group : Nat)
  | look (behind negated : Bool)
  | conditional (group : Nat)
  | body (name : Option String) (captures atomic : Bool) (on off : Flags)

/-- What stands between the opening parenthesis of a group and its body; `start` is what was left
at the parenthesis. -/
def readGroupKind (start : Nat) (r : Reading) : Except Fault (GroupKind × Reading) := do
  let (extended, r) ← r.accept '?'
  if !extended then pure (.body none true false {} {}, r)
  else
    let (token, r) ← r.next
    match token with
    | none => failBack .unexpectedEnd 0 r
    | some (.plain 'P') =>
      let (named, r) ← r.accept '<'
      if named then
        let (name, r) ← readGroupName r
        pure (.body (some name) true false {} {}, r)
      else
        let (referring, r) ← r.accept '='
        if referring then
          let (group, r) ← readNamedReference r
          pure (.reference group, r)
        else
          let (token, r) ← r.next
          match token with
          | none => failBack .unexpectedEnd 0 r
          | some token =>
            failBack (.unknownExtension ("P" ++ token.text)) (token.chars.length + 2) r
    | some (.plain ':') => pure (.body none false false {} {}, r)
    | some (.plain '#') =>
      let r ← skipComment start (r.rest.length + 1) r
      pure (.nothing, r)
    | some (.plain '=') => pure (.look false false, r)
    | some (.plain '!') => pure (.look false true, r)
    | some (.plain '<') =>
      let (token, r) ← r.next
      match token with
      | none => failBack .unexpectedEnd 0 r
      | some (.plain '=') => pure (.look true false, r)
      | some (.plain '!') => pure (.look true true, r)
      | some token => failBack (.unknownExtension ("<" ++ token.text)) (token.chars.length + 2) r
    | some (.plain '(') =>
      let (group, r) ← readCondition r
      pure (.conditional group, r)
    | some (.plain '>') => pure (.body none false true {} {}, r)
    | some token =>
      let unknown {α : Type} : Except Fault α :=
        failBack (.unknownExtension token.text) (token.chars.length + 1) r
      match token with
      | .plain c =>
        if c == '-' || (flag? c).isSome then
          let (group, r) ← readFlags c r
          match group with
          | .whole on => pure (.whole on, r)
          | .scoped on off => pure (.body none false false on off, r)
        else unknown
      | .escaped _ => unknown

/-- Moves behind the closing parenthesis of the group that was opened where `start` characters
were left. -/
def closeParenthesis (start : Nat) (r : Reading) : Except Fault Reading := do
  let (closed, r) ← r.accept ')'
  if closed then pure r else .error (.malformed .unterminatedGroup (some start))

/-- Where a sequence stands: its flags, and whether it opens the whole pattern. -/
structure Place where
  flags : Flags
  top : Bool
  first : Bool

/-- The items of a sequence, last one first, each with what may follow it. -/
abbrev Items := List (Repeatable × Node)

def Escape.item (mode : Mode) : Escape → Repeatable × Node
  | code n => (.yes, .char mode (.code false n))
  | category negated kind => (.yes, .char mode (.category negated kind))
  | anchor place => (.place, .anchor place)
  | group n => (.yes, .backref mode n)

/-- The item of a character that stands for itself or for a place. -/
def plainItem (flags : Flags) (c : Char) : Repeatable × Node :=
  if c = '.' then (.yes, .char flags.mode (if flags.dotAll then .any else .notNewline))
  else if c = '^' then (.place, .anchor (if flags.multiline then .lineStart else .textStart))
  else if c = '$' then
    (.place, .anchor (if flags.multiline then .lineEnd else .beforeLastNewline))
  else (.yes, .char flags.mode (.code false c.toNat))

/-- Repeats the last item; `r` is behind the counts and `start` is what was left in front of
them. -/
def repeatLast (counts : Nat × Option Nat) (start : Nat) (items : Items) (r : Reading) :
    Except Fault (Items × Reading) :=
  match items with
  | [] => .error (.malformed .nothingToRepeat (some start))
  | (repeatable, body) :: before =>
    match repeatable with
    | .place => .error (.malformed .nothingToRepeat (some start))
    | .repeated => .error (.malformed .multipleRepeat (some start))
    | .yes => do
      let (isLazy, r) ← r.accept '?'
      let (possessive, r) ← if isLazy then pure (false, r) else r.accept '+'
      let greed : Greed :=
        if isLazy then .lazy else if possessive then .possessive else .greedy
      pure ((.repeated, .loop greed counts.1 counts.2 body) :: before, r)

mutual

/-- Alternatives up to a closing parenthesis or the end. -/
def readChoice : Nat → Place → Reading → Except Fault (Node × Reading)
  | 0, _, r => failBack .unexpectedEnd 0 r
  | fuel + 1, place, r => do
    let (branch, r) ← readSequence fuel place [] r
    let (more, r) ← r.accept '|'
    if !more then pure (branch, r)
    else
      let flags := if place.top then r.flags else place.flags
      let (others, r) ← readChoice fuel { place with flags, first := false } r
      pure (.alt branch others, r)

/-- A sequence up to a bar, a closing parenthesis or the end. -/
def readSequence : Nat → Place → Items → Reading → Except Fault (Node × Reading)
  | 0, _, _, r => failBack .unexpectedEnd 0 r
  | fuel + 1, place, items, r =>
    let flags := place.flags
    let start := r.rest.length
    match r.peek with
    | none => .ok (.sequence (items.reverse.map (·.2)), r)
    | some (.escaped c) => do
      let (meaning, r) ← escapeMeaning flags.ascii c (← r.advance)
      readSequence fuel place (meaning.item flags.mode :: items) r
    | some (.plain c) =>
      if c == '|' || c == ')' then .ok (.sequence (items.reverse.map (·.2)), r)
      else do
        let r ← r.advance
        if flags.verbose && Text.isBlankAscii c then readSequence fuel place items r
        else if flags.verbose && c == '#' then
          readSequence fuel place items (← skipLine (start + 1) r)
        else if c == '[' then
          let (node, r) ← readSet flags.mode r
          readSequence fuel place ((.yes, node) :: items) r
        else if c == '*' || c == '+' || c == '?' || c == '\x7b' then
          let (counts, r) ← readCounts c r
          match counts with
          | none => readSequence fuel place (plainItem flags c :: items) r
          | some counts =>
            let (items, r) ← repeatLast counts start items r
            readSequence fuel place items r
        else if c == '(' then
          let (kind, r) ← readGroupKind start r
          match kind with
          | .nothing => readSequence fuel place items r
          | .reference group =>
            readSequence fuel place ((.yes, .backref flags.mode group) :: items) r
          | .whole on =>
            if !place.first || !items.isEmpty then
              .error (.malformed .misplacedFlags (some start))
            else
              let r := { r with flags := r.flags.union on }
              readSequence fuel { place with flags := r.flags } items r
          | kind =>
            let (node, r) ← readGroup fuel start flags kind r
            readSequence fuel place ((.yes, node) :: items) r
        else readSequence fuel place (plainItem flags c :: items) r

/-- The body of a group with the closing parenthesis. -/
def readGroup : Nat → Nat → Flags → GroupKind → Reading → Except Fault (Node × Reading)
  | 0, _, _, _, r => failBack .unexpectedEnd 0 r
  | fuel + 1, start, flags, kind, r =>
    match kind with
    | .look behind negated => do
      let barrier := if behind then r.barrier.or (some r.groups) else r.barrier
      let (body, after) ← readChoice fuel ⟨flags, false, false⟩ { r with barrier }
      let after ← closeParenthesis start { after with barrier := r.barrier }
      if behind then
        let width := body.width after.widths
        let hasWideLookbehind := after.hasWideLookbehind || lookbehindBound ≤ width.min
        pure (.behind negated width.min body, { after with hasWideLookbehind })
      else pure (.ahead negated body, after)
    | .conditional group => do
      let (yes, r) ← readSequence fuel ⟨flags, false, false⟩ [] r
      let (more, r) ← r.accept '|'
      let (no, r) ← if more then readSequence fuel ⟨flags, false, false⟩ [] r else pure (.empty, r)
      if more && r.sees '|' then failBack .tooManyBranches 0 r
      else
        let r ← closeParenthesis start r
        pure (.conditional group yes no, r)
    | .body name captures isAtomic on off => do
      let flags := flags.scoped on off
      if captures then
        let (group, r) ← r.openGroup name
        let (body, r) ← readChoice fuel ⟨flags, false, false⟩ r
        let r ← closeParenthesis start r
        pure (.capture group body, r.closeGroup group body)
      else
        let (body, r) ← readChoice fuel ⟨flags, false, false⟩ r
        let r ← closeParenthesis start r
        pure (if isAtomic then .atomic body else body, r)
    | _ => .ok (.empty, r)

end

/-- What is wrong with a pattern that has been read, at the first place where something is: a
look-behind over no fixed width, or a repetition in a template. What encloses another place comes
before it. -/
def Node.fault? (template : Bool) (groups : List (Nat × Width)) : Node → Option Cause
  | cat first second => (first.fault? template groups).or (second.fault? template groups)
  | alt first second => (first.fault? template groups).or (second.fault? template groups)
  | capture _ body => body.fault? template groups
  | loop greed _ _ body =>
    if template then some (.repetitionInTemplate greed) else body.fault? template groups
  | atomic body => body.fault? template groups
  | ahead _ body => body.fault? template groups
  | behind _ _ body => (lookbehindCause? (body.width groups)).or (body.fault? template groups)
  | conditional _ yes no => (yes.fault? template groups).or (no.fault? template groups)
  | _ => none

/-- The pattern that a text denotes under the given flags, on a stack that is large enough. -/
def readWhole (flags : Flags) (source : String) : Except Fault Pattern := do
  let text := source.toList
  let start : Reading := { rest := text, flags := flags }
  let r ← start.moveTo text
  let (node, r) ← readChoice (4 * text.length + 4) ⟨flags, true, true⟩ r
  if r.flags.ascii && r.flags.unicode then .error .bothAlphabets
  else if !r.rest.isEmpty then failBack .unbalancedParenthesis 0 r
  else
    match r.tested.find? fun test => r.groups ≤ test.1 with
    | some (group, left) => .error (.malformed (.noSuchGroup group) (some left))
    | none =>
      match node.fault? r.flags.template r.widths with
      | some cause => .error (.malformed cause none)
      | none => if r.hasWideLookbehind then .error (.beyond .lookbehind) else pure ⟨source, node⟩

/-- The pattern that a text denotes under the given flags. -/
def read (flags : Flags) (source : String) : Except Fault Pattern :=
  match Platform.overflow? flags source with
  | some told => .error (.beyond (.nesting told))
  | none => readWhole flags source

end SlopLint.Pattern

namespace SlopLint

/-- The pattern of a text that is known to be well formed on any system: it names no character, and
its groups are few. -/
def Pattern.known (flags : Pattern.Flags) (source : String)
    (wellFormed : (@Pattern.read (.withRoom 100) flags source).toOption.isSome := by
      decide +kernel) : Pattern :=
  (@Pattern.read (.withRoom 100) flags source).toOption.get wellFormed

end SlopLint
