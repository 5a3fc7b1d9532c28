import Mathlib.Data.List.DropRight
import Mathlib.Data.List.Infix
import Mathlib.Tactic.Lemma
import SlopLint.Console.Markup

/-!
# Tags of a text with markup

A tag is an opening bracket with a closing one behind it, and the backslashes in front of it belong
to it. A text without tags is one plain part. Between two tags such a text is one as well, but for
the backslashes at its end.
-/

namespace SlopLint.Console.Markup

variable {text front rest : List Char}

/-! ### Texts without tags -/

lemma not_isBracket_of_startsTag {c : Char} (h : startsTag c = true) : isBracket c = false := by
  rw [← Bool.not_eq_true]
  intro hbracket
  obtain rfl | rfl : c = '[' ∨ c = ']' := by simpa [isBracket] using hbracket
  all_goals
    revert h
    decide

/-- There is a tag behind an opening bracket if something follows that may start one, and the next
bracket is one that closes. -/
lemma tagInside?_eq_none_iff : tagInside? text = none ↔
    ¬ (text.head?.any startsTag = true ∧ text.find? isBracket = some ']') := by
  cases text with
  | nil => simp [tagInside?]
  | cons c text =>
    by_cases hstarts : startsTag c = true
    · simp [tagInside?, hstarts, not_isBracket_of_startsTag hstarts]
    · simp [tagInside?, hstarts]

lemma tagInside?_append (h : tagInside? text = none) (hrest : rest.find? isBracket ≠ some ']') :
    tagInside? (text ++ rest) = none := by
  rw [tagInside?_eq_none_iff] at h ⊢
  rintro ⟨hstarts, hcloses⟩
  rw [List.find?_append] at hcloses
  cases hfind : text.find? isBracket with
  | none =>
    rw [hfind, Option.none_or] at hcloses
    exact hrest hcloses
  | some bracket =>
    rw [hfind, Option.some_or] at hcloses
    cases text with
    | nil => cases hfind
    | cons c text => exact h ⟨hstarts, hfind.trans hcloses⟩

lemma tagInside?_left (h : tagInside? (text ++ rest) = none) : tagInside? text = none := by
  rw [tagInside?_eq_none_iff] at h ⊢
  rintro ⟨hstarts, hcloses⟩
  cases text with
  | nil => cases hcloses
  | cons c text => exact h ⟨hstarts, by rw [List.find?_append, hcloses, Option.some_or]⟩

/-- A text holds no tag. -/
def Harmless : List Char → Prop
  | [] => True
  | c :: rest => (c = '[' → tagInside? rest = none) ∧ Harmless rest

def Harmless.decide : (text : List Char) → Decidable (Harmless text)
  | [] => .isTrue trivial
  | c :: rest =>
    have := Harmless.decide rest
    inferInstanceAs (Decidable ((c = '[' → tagInside? rest = none) ∧ Harmless rest))

instance : DecidablePred Harmless :=
  Harmless.decide

lemma Harmless.behind (hfront : '[' ∉ front) (hrest : Harmless rest) :
    Harmless (front ++ rest) := by
  induction front with
  | nil => exact hrest
  | cons c front ih =>
    rw [List.mem_cons, not_or] at hfront
    exact ⟨fun hc => absurd hc.symm hfront.1, ih hfront.2⟩

lemma harmless_of_no_bracket (h : '[' ∉ text) : Harmless text := by
  have hwhole : Harmless (text ++ []) := Harmless.behind h trivial
  rwa [List.append_nil] at hwhole

lemma Harmless.append (hfront : Harmless front) (hrest : Harmless rest)
    (hcloses : rest.find? isBracket ≠ some ']') : Harmless (front ++ rest) := by
  induction front with
  | nil => exact hrest
  | cons c front ih => exact ⟨fun hc => tagInside?_append (hfront.1 hc) hcloses, ih hfront.2⟩

lemma Harmless.left (h : Harmless (front ++ rest)) : Harmless front := by
  induction front with
  | nil => trivial
  | cons c front ih => exact ⟨fun hc => tagInside?_left (h.1 hc), ih h.2⟩

/-! ### Tags at a place -/

lemma tagAt?_of_other {c : Char} (hslash : c ≠ '\\') (hbracket : c ≠ '[') (rest : List Char) :
    tagAt? (c :: rest) = none := by
  unfold tagAt?
  split
  next heq => exact absurd (List.cons.inj heq).1 hslash
  next heq => exact absurd (List.cons.inj heq).1 hbracket
  next => rfl

lemma tagAt?_append (hharmless : Harmless front) (hne : front ≠ [])
    (hends : front.getLast? ≠ some '\\' ∨ tagAt? rest = none)
    (hcloses : rest.find? isBracket ≠ some ']') : tagAt? (front ++ rest) = none := by
  induction front with
  | nil => exact absurd rfl hne
  | cons c front ih =>
    by_cases hslash : c = '\\'
    · subst hslash
      rw [List.cons_append, tagAt?, Option.map_eq_none_iff]
      cases front with
      | nil => exact hends.resolve_left (by simp)
      | cons d front =>
        rw [List.getLast?_cons_cons] at hends
        exact ih hharmless.2 (List.cons_ne_nil d front) hends
    · by_cases hbracket : c = '['
      · subst hbracket
        rw [List.cons_append, tagAt?, tagInside?_append (hharmless.1 rfl) hcloses]
        rfl
      · exact tagAt?_of_other hslash hbracket _

lemma tagAt?_slashes (slashes : Nat) (behind : List Char) :
    tagAt? (List.replicate slashes '\\' ++ '[' :: behind) =
      (tagInside? behind).map fun inside => (slashes, inside) := by
  induction slashes with
  | zero => rfl
  | succ slashes ih =>
    rw [List.replicate_succ, List.cons_append, tagAt?, ih, Option.map_map]
    rfl

/-! ### Parts -/

/-- A text without tags is passed as a whole. -/
lemma partsFrom_append (hharmless : Harmless front)
    (hends : front.getLast? ≠ some '\\' ∨ tagAt? rest = none)
    (hcloses : rest.find? isBracket ≠ some ']') (passed : List Char) (position : Nat) :
    partsFrom passed 0 position (front ++ rest) =
      partsFrom (passed ++ front) 0 (position + front.length) rest := by
  induction front generalizing passed position with
  | nil => simp
  | cons c front ih =>
    have htag := tagAt?_append hharmless (List.cons_ne_nil c front) hends hcloses
    have hends' : front.getLast? ≠ some '\\' ∨ tagAt? rest = none := by
      cases front with
      | nil => exact .inl (by simp)
      | cons d front => rwa [List.getLast?_cons_cons] at hends
    rw [List.cons_append] at htag ⊢
    rw [partsFrom, htag]
    dsimp only
    rw [ih hharmless.2 hends', List.append_assoc, List.length_cons, Nat.add_assoc,
      Nat.add_comm 1]
    rfl

theorem parts_of_harmless (h : Harmless text) : parts text = plainParts text := by
  have hpassed : partsFrom [] 0 0 (text ++ []) = plainParts ([] ++ text) :=
    partsFrom_append h (.inr rfl) (by simp) [] 0
  rwa [List.append_nil] at hpassed

lemma partsFrom_skip (passed front rest : List Char) (position : Nat) :
    partsFrom passed front.length position (front ++ rest) =
      partsFrom passed 0 (position + front.length) rest := by
  induction front generalizing position with
  | nil => rfl
  | cons c front ih =>
    rw [List.length_cons, List.cons_append, partsFrom, ih, Nat.add_assoc, Nat.add_comm 1]

/-- A tag ends the plain text in front of it. -/
lemma partsFrom_tag {inside : List Char} (h : tagInside? (inside ++ ']' :: rest) = some inside)
    (slashes : Nat) (passed : List Char) (position : Nat) :
    partsFrom passed 0 position
        (List.replicate slashes '\\' ++ '[' :: (inside ++ ']' :: rest)) =
      plainParts passed ++ tagParts position slashes inside ++
        partsFrom [] 0 (position + (slashes + inside.length + 2)) rest := by
  have htag := tagAt?_slashes slashes (inside ++ ']' :: rest)
  rw [h] at htag
  let whole := List.replicate slashes '\\' ++ '[' :: (inside ++ [']'])
  have hwhole : List.replicate slashes '\\' ++ '[' :: (inside ++ ']' :: rest) = whole ++ rest := by
    simp [whole]
  have hlength : whole.length = slashes + inside.length + 2 := by
    simp [whole]
    omega
  obtain ⟨c, behind, hcons⟩ := List.exists_cons_of_ne_nil (show whole ≠ [] by simp [whole])
  rw [hwhole, hcons, List.cons_append] at htag ⊢
  rw [hcons, List.length_cons] at hlength
  have hbehind : slashes + inside.length + 1 = behind.length := by omega
  rw [partsFrom, htag]
  dsimp only [Option.map_some]
  rw [hbehind, partsFrom_skip, Nat.add_assoc position, Nat.add_comm 1, hlength]

/-! ### Backslashes at the end -/

/-- A text without the backslashes at its end. -/
def stem (text : List Char) : List Char :=
  text.rdropWhile (· == '\\')

/-- The number of backslashes at the end of a text. -/
def endSlashes (text : List Char) : Nat :=
  (text.rtakeWhile (· == '\\')).length

lemma stem_append_slashes (text : List Char) :
    stem text ++ List.replicate (endSlashes text) '\\' = text := by
  have hslashes : text.rtakeWhile (· == '\\') = List.replicate (endSlashes text) '\\' :=
    List.eq_replicate_of_mem fun c hc => by simpa using List.mem_rtakeWhile_imp hc
  rw [stem, ← hslashes, List.rdropWhile_append_rtakeWhile]

lemma getLast?_stem (text : List Char) : (stem text).getLast? ≠ some '\\' := by
  intro h
  have hne : stem text ≠ [] := by
    intro hnil
    simp [hnil] at h
  rw [List.getLast?_eq_some_getLast hne, Option.some.injEq] at h
  exact List.rdropWhile_last_not _ _ hne (beq_iff_eq.mpr h)

lemma endSlashes_eq_zero_iff (text : List Char) :
    endSlashes text = 0 ↔ text.getLast? ≠ some '\\' := by
  rw [endSlashes, List.length_eq_zero_iff, List.rtakeWhile_eq_nil_iff]
  constructor
  · intro h hlast
    have hne : text ≠ [] := by
      rintro rfl
      cases hlast
    rw [List.getLast?_eq_some_getLast hne, Option.some.injEq] at hlast
    exact h hne (by simpa using hlast)
  · intro h hne hlast
    rw [beq_iff_eq] at hlast
    exact h (by rw [List.getLast?_eq_some_getLast hne, hlast])

lemma harmless_stem (h : Harmless text) : Harmless (stem text) := by
  rw [← stem_append_slashes text] at h
  exact h.left

/-- The parts of a text between an opening and a closing tag, the first of which stands behind plain
text. The backslashes at its end belong to the closing one. -/
theorem parts_between (hfront : '[' ∉ front) (hslash : front.getLast? ≠ some '\\')
    (htext : Harmless text) : ∃ position position',
    parts (front ++ ("[bold]".toList ++ (text ++ "[/]".toList))) =
      plainParts front ++ .tag (tagOf "bold".toList) position ::
        (plainParts (stem text) ++ tagParts position' (endSlashes text) "/".toList) := by
  have hopening : "[bold]".toList ++ (text ++ "[/]".toList) =
      '[' :: ("bold".toList ++ ']' :: (text ++ "[/]".toList)) := by
    rw [show "[bold]".toList = '[' :: ("bold".toList ++ [']']) by decide]
    simp
  have hclosing : text ++ "[/]".toList = stem text ++
      (List.replicate (endSlashes text) '\\' ++ '[' :: ("/".toList ++ ']' :: [])) := by
    rw [← List.append_assoc, stem_append_slashes]
    rfl
  have hbold : tagInside? ("bold".toList ++ ']' :: (text ++ "[/]".toList)) =
      some "bold".toList := by
    rw [show "bold".toList = ['b', 'o', 'l', 'd'] by decide]
    simp [tagInside?, startsTag, isBracket]
  have hslashes : (List.replicate (endSlashes text) '\\' ++
      '[' :: ("/".toList ++ ']' :: [])).find? isBracket ≠ some ']' := by
    rw [List.find?_append, List.find?_replicate]
    simp [isBracket]
  have hfrontParts : parts (front ++ ("[bold]".toList ++ (text ++ "[/]".toList))) =
      plainParts front ++ .tag (tagOf "bold".toList) front.length ::
        partsFrom [] 0 (front.length + 6) (text ++ "[/]".toList) := by
    rw [parts, partsFrom_append (harmless_of_no_bracket hfront) (.inl hslash)
      (by rw [hopening]; nofun), hopening, List.nil_append, Nat.zero_add]
    exact (partsFrom_tag hbold 0 front _).trans (by simp [tagParts, plainParts])
  have htextParts (position : Nat) : partsFrom [] 0 position (text ++ "[/]".toList) =
      plainParts (stem text) ++
        tagParts (position + (stem text).length) (endSlashes text) "/".toList := by
    rw [hclosing, partsFrom_append (harmless_stem htext) (.inl (getLast?_stem text)) hslashes,
      partsFrom_tag (by decide)]
    simp [plainParts, partsFrom]
  exact ⟨_, _, hfrontParts.trans (by rw [htextParts])⟩

end SlopLint.Console.Markup
