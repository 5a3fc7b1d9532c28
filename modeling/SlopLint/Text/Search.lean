/-!
# Plain text search

Occurrence of one text in another, character by character, and cutting a text at a separator.
-/

namespace SlopLint.Text

/-- Whether `needle` stands somewhere in the text. -/
def occursIn (needle : List Char) : List Char → Bool
  | [] => needle.isEmpty
  | c :: rest => needle.isPrefixOf (c :: rest) || occursIn needle rest

/-- Whether the literal `needle` stands somewhere in the text. -/
def has (text : List Char) (needle : String) : Bool :=
  occursIn needle.toList text

/-- Whether one of the literals stands somewhere in the text. -/
def hasAny (text : List Char) (needles : List String) : Bool :=
  needles.any (has text)

/-- The pieces between the separators; a text with `n` separators has `n + 1` pieces. -/
def splitOnChar (separator : Char) : List Char → List (List Char)
  | [] => [[]]
  | c :: rest =>
    if c == separator then [] :: splitOnChar separator rest
    else
      match splitOnChar separator rest with
      | [] => [[c]]
      | piece :: pieces => (c :: piece) :: pieces

theorem splitOnChar_ne_nil (separator : Char) (text : List Char) :
    splitOnChar separator text ≠ [] := by
  induction text with
  | nil => simp [splitOnChar]
  | cons c rest ih =>
    unfold splitOnChar
    split
    · simp
    · split <;> simp

/-- The text with every occurrence of one character replaced by another. -/
def replaceChar (old new : Char) (text : List Char) : List Char :=
  text.map fun c => if c == old then new else c

end SlopLint.Text
