import Mathlib.Tactic.Lemma
import SlopLint.Console.Emoji

/-!
# Emoji codes in a text

A code ends in a colon and holds no blank, so no code goes from one side of a blank to the other,
and a text with fewer than two colons has none. No library has an emoji with a backslash in it or in
its name: the backslashes of a text stay.
-/

namespace SlopLint.Console.Emoji

/-! ### Codes -/

section Codes

variable {text front rest code : List Char}

lemma code?_eq_some (h : code? text = some code) : ∃ after, text = code ++ ':' :: after := by
  induction text generalizing code with
  | nil => cases h
  | cons c text ih =>
    rw [code?] at h
    split at h
    next hc =>
      cases h
      exact ⟨text, by rw [hc]; rfl⟩
    next =>
      split at h
      · cases h
      · obtain ⟨code, hcode, rfl⟩ := Option.map_eq_some_iff.mp h
        obtain ⟨after, rfl⟩ := ih hcode
        exact ⟨after, rfl⟩

lemma code?_of_no_colon (h : ':' ∉ text) : code? text = none := by
  cases hcode : code? text with
  | none => rfl
  | some code =>
    obtain ⟨after, rfl⟩ := code?_eq_some hcode
    simp at h

lemma ne_colon_of_isBlank {blank : Char} (h : Text.isBlank blank = true) : blank ≠ ':' := by
  rintro rfl
  revert h
  decide

lemma code?_blank {blank : Char} (h : Text.isBlank blank = true) (rest : List Char) :
    code? (blank :: rest) = none := by
  rw [code?, if_neg (ne_colon_of_isBlank h), if_pos h]

/-- What stands behind a text does not matter to a code that begins in it, unless a code could go on
there. -/
lemma code?_append (h : code? rest = none) (front : List Char) :
    code? (front ++ rest) = code? front := by
  induction front with
  | nil => exact h
  | cons c front ih => rw [List.cons_append, code?, code?, ih]

end Codes

/-! ### Texts with codes -/

variable [Library] {front rest text : List Char}

lemma replaceFrom_append (h : code? rest = none) {skip : Nat} (hskip : skip ≤ front.length) :
    replaceFrom skip (front ++ rest) = replaceFrom skip front ++ replace rest := by
  induction front generalizing skip with
  | nil =>
    obtain rfl : skip = 0 := Nat.le_zero.mp hskip
    rfl
  | cons c front ih =>
    cases skip with
    | succ skip => exact ih (Nat.le_of_succ_le_succ hskip)
    | zero =>
      rw [List.cons_append, replaceFrom, replaceFrom, code?_append h]
      split
      next code hcode =>
        have hlength : code.length + 1 ≤ front.length := by
          obtain ⟨after, rfl⟩ : ∃ after, front = code ++ ':' :: after := by
            split at hcode
            · exact code?_eq_some hcode
            · cases hcode
          simp
        rw [ih hlength, List.append_assoc]
      next => rw [ih (Nat.zero_le _), List.cons_append]

/-- The codes of a text are those of its two sides, if none could go on at its second one. -/
theorem replace_append (h : code? rest = none) (front : List Char) :
    replace (front ++ rest) = replace front ++ replace rest :=
  replaceFrom_append h (Nat.zero_le _)

lemma replace_cons {c : Char} (hc : c ≠ ':') (rest : List Char) :
    replace (c :: rest) = c :: replace rest := by
  rw [replace, replaceFrom, if_neg hc]
  rfl

/-- A text without colons is passed as a whole. -/
lemma replace_front (h : ':' ∉ front) (rest : List Char) :
    replace (front ++ rest) = front ++ replace rest := by
  induction front with
  | nil => rfl
  | cons c front ih =>
    rw [List.mem_cons, not_or] at h
    rw [List.cons_append, replace_cons (Ne.symm h.1), ih h.2, List.cons_append]

lemma replace_of_no_colon (h : ':' ∉ text) : replace text = text := by
  have hwhole : replace (text ++ []) = text ++ [] := replace_front h []
  rwa [List.append_nil] at hwhole

/-- A colon behind which no code begins is shown. -/
lemma replace_colon (h : code? rest = none) : replace (':' :: rest) = ':' :: replace rest := by
  rw [replace, replaceFrom, if_pos rfl, h]
  rfl

/-- A text with a single colon has no code. -/
lemma replace_of_count_le (h : text.count ':' ≤ 1) : replace text = text := by
  by_cases hcolon : ':' ∈ text
  · obtain ⟨front, rest, rfl⟩ := List.append_of_mem hcolon
    rw [List.count_append, List.count_cons_self] at h
    have hfront : ':' ∉ front := List.count_eq_zero.mp (by omega)
    have hrest : ':' ∉ rest := List.count_eq_zero.mp (by omega)
    rw [replace_front hfront, replace_colon (code?_of_no_colon hrest), replace_of_no_colon hrest]
  · exact replace_of_no_colon hcolon

/-- Blanks stand between codes. -/
theorem replace_blank {blank : Char} (h : Text.isBlank blank = true) (front rest : List Char) :
    replace (front ++ blank :: rest) = replace front ++ blank :: replace rest := by
  rw [replace_append (code?_blank h rest), replace_cons (ne_colon_of_isBlank h)]

/-- A label with its colon and a blank is shown as it is. -/
lemma replace_label (hfront : ':' ∉ front) (rest : List Char) :
    replace (front ++ ':' :: ' ' :: rest) = front ++ ':' :: ' ' :: replace rest := by
  rw [replace_front hfront, replace_colon (code?_blank (by decide) rest), replace_cons (by decide)]

/-! ### Backslashes -/

lemma slash_not_mem_ofCode? {code shown : List Char} (h : ofCode? code = some shown) :
    '\\' ∉ code ∧ '\\' ∉ shown := by
  unfold ofCode? at h
  split at h
  next ending mark hfind =>
    obtain ⟨emoji, hemoji, rfl⟩ := Option.map_eq_some_iff.mp h
    obtain ⟨hname, hshown⟩ := Library.emoji?_slashless _ _ hemoji
    have hsuffix : ending.toList <:+ code := by
      simpa using List.find?_some hfind
    have hform : (ending, mark) ∈ forms := List.mem_of_find?_eq_some hfind
    have hforms : ∀ form ∈ forms, '\\' ∉ form.1.toList ∧ form.2 ≠ '\\' := by decide
    obtain ⟨hending, hmark⟩ := hforms _ hform
    obtain ⟨name, rfl⟩ := hsuffix
    have hlength : (name ++ ending.toList).length - ending.length = name.length := by
      rw [List.length_append, String.length_toList, Nat.add_sub_cancel]
    rw [hlength, List.take_left] at hname
    simp [hname, hending, hshown, Ne.symm hmark]
  next => exact Library.emoji?_slashless _ _ h

lemma count_shown (code : List Char) : (shown code).count '\\' = code.count '\\' := by
  unfold shown
  cases h : ofCode? code with
  | none => simp
  | some emoji =>
    obtain ⟨hcode, hemoji⟩ := slash_not_mem_ofCode? h
    rw [List.count_eq_zero.mpr hcode]
    exact List.count_eq_zero.mpr hemoji

lemma count_replaceFrom (skip : Nat) (text : List Char) :
    (replaceFrom skip text).count '\\' = (text.drop skip).count '\\' := by
  induction text generalizing skip with
  | nil => simp [replaceFrom]
  | cons c rest ih =>
    cases skip with
    | succ skip => exact ih skip
    | zero =>
      rw [replaceFrom]
      split
      next code hcode =>
        split at hcode
        next hc =>
          obtain ⟨after, rfl⟩ := code?_eq_some hcode
          have hbehind : (code ++ ':' :: after).drop (code.length + 1) = after := by simp
          rw [List.count_append, count_shown, ih, hbehind]
          simp [hc]
        next => cases hcode
      next => rw [List.count_cons, ih, List.drop_zero, List.drop_zero, List.count_cons]

/-- A text with its emoji has the backslashes that it has without them. -/
theorem count_replace (text : List Char) : (replace text).count '\\' = text.count '\\' :=
  count_replaceFrom 0 text

end SlopLint.Console.Emoji
