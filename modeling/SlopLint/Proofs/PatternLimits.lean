import Mathlib.Data.List.Infix
import Mathlib.Tactic.Lemma
import SlopLint.Pattern.Reader
import SlopLint.Proofs.FailingSteps

/-!
# Limits of patterns

A pattern goes beyond a limit of the reader only where its text shows it: by a large count between
braces, by the large number of an escape, or by a look-behind. The reader never leaves its text, so
what it meets on its way, and what it remembers of it, stands somewhere in the text.
-/

namespace SlopLint.Pattern

/-! ### What a step has read -/

section Reading

variable {r : Reading}

end Reading

/-! ### Limits in a text -/

variable [Platform]

/-- What a text holds that may go beyond a limit. -/
def Limit.Shows (text : List Char) : Limit → Prop
  | repetition => ∃ before opening digits closing after,
      text = before ++ opening :: digits ++ closing :: after ∧
      opening ∈ ['\x7b', ','] ∧ closing ∈ [',', '\x7d'] ∧
      (∀ d ∈ digits, d.isDigit = true) ∧ countBound ≤ valueOf 10 digits
  | codePoint => ∃ before letter digits after,
      text = before ++ '\\' :: letter :: digits ++ after ∧
      (∀ d ∈ digits, isHexadecimal d = true) ∧ codeBound ≤ valueOf 16 digits
  | lookbehind => ∃ before sign after,
      text = before ++ '(' :: '?' :: '<' :: sign :: after ∧ sign ∈ ['=', '!']
  | nesting _ => Platform.room < text.count '('

/-- A reader is in a text when what is left is the end of it, and what it has met of look-behinds
stands in it. -/
structure Within (text : List Char) (r : Reading) : Prop where
  rest : r.rest <:+ text
  wide : r.hasWideLookbehind = true → Limit.lookbehind.Shows text

/-- A step of the reader in a text: its value is good, or else it goes beyond a limit only if the
text shows it. -/
def Reads {α : Type} (text : List Char) (good : α → Prop) : Except Fault α → Prop
  | .ok value => good value
  | .error fault => ∀ limit, fault = .beyond limit → limit.Shows text

/-- The reader is still in the text behind a value that it has read. -/
def Behind {α : Type} (text : List Char) (value : α × Reading) : Prop :=
  Within text value.2

section Steps

variable {α β : Type} {text : List Char} {good : α → Prop} {good' : β → Prop}

end Steps

section Reading

variable {text : List Char} {r : Reading}

/-! ### Tokens -/

section Escapes

variable {c : Char}

end Escapes

/-! ### Sets -/

variable {fuel : Nat}

end Reading

end SlopLint.Pattern
