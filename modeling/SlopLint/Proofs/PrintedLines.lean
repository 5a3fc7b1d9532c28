import SlopLint.Console.Item
import SlopLint.Proofs.PrintedNumbers
import SlopLint.Proofs.RenderedTexts

/-!
# The lines that items show

Every item but a table shows one line before it is brought to the width of a console. Which kind of
line it is can be told from its beginning, and a number can be read from the words around it.
-/

namespace SlopLint.Console

section Lines

variable [Library]

/-! ### Lines of items -/

/-- What an item shows before it is brought to the width of a console. Tables are made for a width
from the start, and faulty markup shows nothing. -/
def Item.shown? : Item → Option (List Char)
  | marked text => (Markup.render text.toList).toOption
  | plain text => some (Emoji.replace text.toList)
  | table _ => none

def shownLines (items : List Item) : List (List Char) :=
  items.filterMap Item.shown?

lemma shownLines_append (items others : List Item) :
    shownLines (items ++ others) = shownLines items ++ shownLines others :=
  List.filterMap_append

lemma shownLines_plain (texts : List String) :
    shownLines (texts.map .plain) = texts.map fun text => Emoji.replace text.toList := by
  rw [shownLines, List.filterMap_map]
  exact congrFun List.filterMap_eq_map' texts

lemma shownLines_flatMap {α : Type} (items : α → List Item) (values : List α) :
    shownLines (values.flatMap items) = values.flatMap fun value => shownLines (items value) := by
  induction values with
  | nil => rfl
  | cons value values ih => rw [List.flatMap_cons, shownLines_append, ih, List.flatMap_cons]

lemma shownLines_marked {text : String} (h : '[' ∉ text.toList) (items : List Item) :
    shownLines (.marked text :: items) = Emoji.replace text.toList :: shownLines items := by
  have hshown : (Item.marked text).shown? = some (Emoji.replace text.toList) := by
    rw [Item.shown?, Markup.render_of_no_bracket h]
    rfl
  exact List.filterMap_cons_some hshown

/-- A text with neither markup nor emoji codes is shown as it is. -/
lemma shownLines_fixed {text : String} (h : '[' ∉ text.toList) (hcolons : text.toList.count ':' ≤ 1)
    (items : List Item) : shownLines (.marked text :: items) = text.toList :: shownLines items := by
  rw [shownLines_marked h, Emoji.replace_of_count_le hcolons]

end Lines

/-! ### Beginnings -/

/-- What follows a given beginning of a line. -/
def behind? (front : String) (line : List Char) : Option (List Char) :=
  if front.toList.isPrefixOf line then some (line.drop front.toList.length) else none

/-- Neither of two texts is the beginning of the other one. -/
def Apart (front other : String) : Prop :=
  ¬ front.toList <+: other.toList ∧ ¬ other.toList <+: front.toList

instance (front other : String) : Decidable (Apart front other) :=
  inferInstanceAs (Decidable (_ ∧ _))

lemma behind?_append (front : String) (rest : List Char) :
    behind? front (front.toList ++ rest) = some rest := by
  have hprefix : front.toList.isPrefixOf (front.toList ++ rest) = true :=
    List.isPrefixOf_iff_prefix.mpr (List.prefix_append _ _)
  rw [behind?, if_pos hprefix, List.drop_left]

lemma behind?_of_apart {front other : String} (h : Apart front other) (rest : List Char) :
    behind? front (other.toList ++ rest) = none := by
  apply if_neg
  intro hprefix
  rw [List.isPrefixOf_iff_prefix] at hprefix
  exact (List.prefix_or_prefix_of_prefix hprefix (List.prefix_append _ _)).elim h.1 h.2

/-! ### Told numbers -/

/-- The number that a text starts with, if the rest of it is as given. -/
def numberBefore? (back : String) (text : List Char) : Option Nat :=
  let digits := text.takeWhile Char.isDigit
  if digits ≠ [] ∧ text.drop digits.length = back.toList then some (Json.natOfDigits digits)
  else none

/-- The number that a line tells between two given texts. -/
def told? (front back : String) (line : List Char) : Option Nat :=
  (behind? front line).bind (numberBefore? back)

lemma numberBefore?_repr {back : String} (hback : back.toList.head?.any Char.isDigit = false)
    (n : Nat) : numberBefore? back (n.repr.toList ++ back.toList) = some n := by
  have hdigits : (n.repr.toList ++ back.toList).takeWhile Char.isDigit = n.repr.toList := by
    rw [List.takeWhile_append_of_pos fun c hc => isDigit_of_mem_repr hc]
    cases h : back.toList with
    | nil => simp
    | cons c rest => simpa [h] using hback
  obtain ⟨c, rest, hrepr, -⟩ := exists_repr_eq_cons n
  rw [numberBefore?, hdigits, List.drop_left, if_pos ⟨by simp [hrepr], rfl⟩, natOfDigits_repr]

lemma told?_repr {front back : String} (hback : back.toList.head?.any Char.isDigit = false)
    (n : Nat) : told? front back (front.toList ++ (n.repr.toList ++ back.toList)) = some n := by
  rw [told?, behind?_append, Option.bind_some, numberBefore?_repr hback]

lemma told?_of_apart {front other : String} (h : Apart front other) (back : String)
    (rest : List Char) : told? front back (other.toList ++ rest) = none := by
  rw [told?, behind?_of_apart h, Option.bind_none]

end SlopLint.Console
