import SlopLint.Console.Emoji

/-!
# Markup

A text with markup holds tags in brackets, which set the style of what follows and vanish. A tag
that starts with a slash closes an open one: the one it names, or the last if it names none. An odd
number of backslashes in front of a tag makes it plain text. Tags that start with an at sign are
actions, whose parameters are read when they are closed.
-/

namespace SlopLint.Console

/-- What is wrong with a text with markup: a closing tag without its opening one, or what the
library cannot read. -/
inductive MarkupFault where
  | unmatched (tag : Tag) (position : Nat)
  | nothingToClose (position : Nat)
  | action (told : String)
  | style (told : String)
deriving DecidableEq

def MarkupFault.message : MarkupFault → String
  | unmatched tag position =>
    s!"closing tag '{tag.text}' at position {position} doesn't match any open tag"
  | nothingToClose position => s!"closing tag '[/]' at position {position} has nothing to close"
  | action told => told
  | style told => told

namespace Markup

/-! ### Tags -/

/-- A character that the inside of a tag may start with. -/
def startsTag (c : Char) : Bool :=
  c.isLower || c == '#' || c == '/' || c == '@'

def isBracket (c : Char) : Bool :=
  c == '[' || c == ']'

/-- The inside of the tag whose opening bracket has just been passed. -/
def tagInside? : List Char → Option (List Char)
  | [] => none
  | c :: rest =>
    if startsTag c && rest.find? isBracket == some ']' then
      some (c :: rest.takeWhile fun d => !isBracket d)
    else none

/-- The tag at the front of a text: how many backslashes stand in front of it, and its inside. -/
def tagAt? : List Char → Option (Nat × List Char)
  | '\\' :: rest => (tagAt? rest).map fun (slashes, inside) => (slashes + 1, inside)
  | '[' :: behind => (tagInside? behind).map fun inside => (0, inside)
  | _ => none

def tagOf (inside : List Char) : Tag :=
  match inside.dropWhile (· != '=') with
  | [] => ⟨inside, none⟩
  | _ :: parameters => ⟨inside.takeWhile (· != '='), some parameters⟩

/-! ### Parts -/

def plainParts (text : List Char) : List Part :=
  if text.isEmpty then [] else [.plain text]

/-- The parts of a tag at a position with the backslashes in front of it. -/
def tagParts (position slashes : Nat) (inside : List Char) : List Part :=
  plainParts (List.replicate (slashes / 2) '\\') ++
    [if slashes % 2 = 1 then .plain ('[' :: inside ++ [']'])
      else .tag (tagOf inside) (position + slashes)]

/-- The parts of a text from a position on, behind plain text that has been passed. Some of the
characters belong to the last tag. -/
def partsFrom (passed : List Char) (skip position : Nat) : List Char → List Part
  | [] => plainParts passed
  | c :: rest =>
    match skip with
    | skip + 1 => partsFrom passed skip (position + 1) rest
    | 0 =>
      match tagAt? (c :: rest) with
      | some (slashes, inside) =>
        plainParts passed ++ tagParts position slashes inside ++
          partsFrom [] (slashes + inside.length + 1) (position + 1) rest
      | none => partsFrom (passed ++ [c]) 0 (position + 1) rest

def parts (text : List Char) : List Part :=
  partsFrom [] 0 0 text

/-! ### What is shown -/

/-- The text without the backslashes in front of brackets. -/
def unescape : List Char → List Char
  | '\\' :: '[' :: rest => '[' :: unescape rest
  | c :: rest => c :: unescape rest
  | [] => []

variable [Library]

def normalize (style : List Char) : Except MarkupFault (List Char) :=
  (Library.normalize style).mapError .style

/-- Closes an open tag, whose parameters are read if it is an action. -/
def close (tag : Tag) : Except MarkupFault Unit :=
  match tag.name, tag.parameters with
  | '@' :: _, some (c :: rest) =>
    match Library.actionFault? (c :: rest) with
    | some told => .error (.action told)
    | none => .ok ()
  | _, _ => .ok ()

/-- Shows the parts, keeping the open tags, the last one first. -/
def showParts (opened : List Tag) : List Part → Except MarkupFault (List Char)
  | [] => .ok []
  | .plain text :: parts => do
    let shown ← showParts opened parts
    pure (Emoji.replace (unescape text) ++ shown)
  | .tag tag position :: parts =>
    match tag.name with
    | '/' :: name =>
      if (Text.strip name).isEmpty then
        match opened with
        | [] => .error (.nothingToClose position)
        | last :: opened => do
          close last
          showParts opened parts
      else do
        let style ← normalize (Text.strip name)
        match opened.find? (·.name == style) with
        | none => .error (.unmatched tag position)
        | some found =>
          close found
          showParts (opened.eraseP (·.name == style)) parts
    | name => do
      let style ← normalize name
      showParts (⟨style, tag.parameters⟩ :: opened) parts

/-- What a text with markup shows. -/
def render (text : List Char) : Except MarkupFault (List Char) :=
  showParts [] (parts text)

/-- What a text with markup shows on a console of some width. -/
def renderOn (width : Nat) (text : List Char) : Except MarkupFault (List Char) := do
  let shown ← render text
  match Library.styleFault? width (parts text) with
  | some told => .error (.style told)
  | none => pure shown

end Markup

end SlopLint.Console
