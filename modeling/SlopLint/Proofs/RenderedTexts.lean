import SlopLint.Proofs.EmojiCodes
import SlopLint.Proofs.MarkupTags

/-!
# What texts with markup show

A text without tags is shown with its emoji. So is one between an opening tag and a closing one, but
for the backslashes at its end: they belong to the closing tag, half of them are shown, and an odd
one makes plain text of the tag.
-/

namespace SlopLint.Console.Markup

variable {text front : List Char}

lemma unescape_of_no_bracket (h : '[' ∉ text) : unescape text = text := by
  fun_induction unescape text with
  | case1 rest => simp at h
  | case2 c rest hescaped ih =>
    rw [List.mem_cons, not_or] at h
    rw [ih h.2]
  | case3 => rfl

lemma not_mem_stem {c : Char} (h : c ∉ text) : c ∉ stem text :=
  fun hmem => h ((List.rdropWhile_prefix _ _).subset hmem)

lemma stem_append_replicate (front : List Char) (n : Nat) :
    stem (front ++ List.replicate n '\\') = stem front := by
  induction n with
  | zero => rw [List.replicate_zero, List.append_nil]
  | succ n ih =>
    rw [List.replicate_succ', ← List.append_assoc, stem,
      List.rdropWhile_concat_pos _ _ _ (by decide)]
    exact ih

/-! ### Basic parts -/

lemma plainParts_isBasic (text : List Char) : ∀ part ∈ plainParts text, part.isBasic = true := by
  unfold plainParts
  split
  · exact List.forall_mem_nil _
  · exact List.forall_mem_singleton.mpr rfl

lemma closing_isBasic (position slashes : Nat) :
    ∀ part ∈ tagParts position slashes "/".toList, part.isBasic = true := by
  unfold tagParts
  rw [List.forall_mem_append, List.forall_mem_singleton]
  refine ⟨plainParts_isBasic _, ?_⟩
  split <;> rfl

/-- What a closing tag shows if there are backslashes in front of it: every two of them show one,
and the tag is plain text if one is left. -/
def shownClosing (slashes : Nat) : List Char :=
  List.replicate (slashes / 2) '\\' ++ if slashes % 2 = 1 then "[/]".toList else []

lemma count_shownClosing (slashes : Nat) : (shownClosing slashes).count '\\' = slashes / 2 := by
  have htag : (if slashes % 2 = 1 then "[/]".toList else []).count '\\' = 0 := by
    split <;> decide
  rw [shownClosing, List.count_append, List.count_replicate_self, htag, Nat.add_zero]

variable [Library]

lemma renderOn_of_isBasic (h : ∀ part ∈ parts text, part.isBasic = true) (width : Nat) :
    renderOn width text = render text := by
  rw [renderOn, Library.styleFault?_of_basic width _ h]
  cases render text <;> rfl

/-! ### Shown parts -/

lemma showParts_plain (opened : List Tag) (text : List Char) (parts : List Part) :
    showParts opened (plainParts text ++ parts) =
      (showParts opened parts).map (Emoji.replace (unescape text) ++ ·) := by
  rw [plainParts]
  split
  next hnil =>
    obtain rfl := List.isEmpty_iff.mp hnil
    rw [List.nil_append]
    cases showParts opened parts <;> rfl
  next =>
    rw [List.singleton_append, showParts]
    cases showParts opened parts <;> rfl

lemma showParts_bold (opened : List Tag) (position : Nat) (parts : List Part) :
    showParts opened (.tag (tagOf "bold".toList) position :: parts) =
      showParts (⟨"bold".toList, none⟩ :: opened) parts := by
  have hbold : normalize "bold".toList = .ok "bold".toList := by
    rw [normalize, Library.normalize_bold]
    rfl
  have htag : tagOf "bold".toList = ⟨"bold".toList, none⟩ := by decide
  rw [htag, showParts.eq_def]
  dsimp only
  split
  next hslash => cases hslash
  next =>
    rw [hbold]
    rfl

lemma showParts_closing (opened : List Tag) (position slashes : Nat) :
    showParts (⟨"bold".toList, none⟩ :: opened) (tagParts position slashes "/".toList) =
      .ok (shownClosing slashes) := by
  have hslashes : Emoji.replace (unescape (List.replicate (slashes / 2) '\\')) =
      List.replicate (slashes / 2) '\\' := by
    rw [unescape_of_no_bracket (by simp), Emoji.replace_of_no_colon (by simp)]
  rw [tagParts, showParts_plain, hslashes, shownClosing]
  split
  next => rfl
  next => rfl

/-! ### Texts without tags -/

lemma render_of_harmless (h : Harmless text) :
    render text = .ok (Emoji.replace (unescape text)) := by
  have hshown := showParts_plain [] text []
  rw [List.append_nil, showParts] at hshown
  rw [render, parts_of_harmless h, hshown]
  exact congrArg Except.ok (List.append_nil _)

lemma renderOn_of_harmless (h : Harmless text) (width : Nat) :
    renderOn width text = .ok (Emoji.replace (unescape text)) := by
  have hbasic : ∀ part ∈ parts text, part.isBasic = true := by
    rw [parts_of_harmless h]
    exact plainParts_isBasic text
  rw [renderOn_of_isBasic hbasic, render_of_harmless h]

lemma render_of_no_bracket (h : '[' ∉ text) : render text = .ok (Emoji.replace text) := by
  rw [render_of_harmless (harmless_of_no_bracket h), unescape_of_no_bracket h]

/-! ### Texts between tags -/

/-- What is shown of a text without tags that stands in front of a closing one. -/
def enclosed (text : List Char) : List Char :=
  Emoji.replace (unescape (stem text)) ++ shownClosing (endSlashes text)

/-- A text between an opening tag, behind plain text, and a closing one. -/
lemma render_between (hfront : '[' ∉ front) (hslash : front.getLast? ≠ some '\\')
    (htext : Harmless text) :
    render (front ++ ("[bold]".toList ++ (text ++ "[/]".toList))) =
      .ok (Emoji.replace front ++ enclosed text) := by
  obtain ⟨position, position', hparts⟩ := parts_between hfront hslash htext
  rw [render, hparts, showParts_plain, showParts_bold, showParts_plain, showParts_closing,
    unescape_of_no_bracket hfront]
  rfl

/-- It brings no console to a fault. -/
theorem renderOn_between (hfront : '[' ∉ front) (hslash : front.getLast? ≠ some '\\')
    (htext : Harmless text) (width : Nat) :
    renderOn width (front ++ ("[bold]".toList ++ (text ++ "[/]".toList))) =
      .ok (Emoji.replace front ++ enclosed text) := by
  have hbasic : ∀ part ∈ parts (front ++ ("[bold]".toList ++ (text ++ "[/]".toList))),
      part.isBasic = true := by
    obtain ⟨position, position', hparts⟩ := parts_between hfront hslash htext
    rw [hparts, List.forall_mem_append, List.forall_mem_cons, List.forall_mem_append]
    exact ⟨plainParts_isBasic _, rfl, plainParts_isBasic _, closing_isBasic _ _⟩
  rw [renderOn_of_isBasic hbasic, render_between hfront hslash htext]

/-! ### Texts that are shown as they are -/

lemma enclosed_of_no_bracket (h : '[' ∉ text) :
    enclosed text = Emoji.replace (stem text) ++ shownClosing (endSlashes text) := by
  rw [enclosed, unescape_of_no_bracket (not_mem_stem h)]

/-- The backslashes at the end of a text belong to no emoji code. -/
lemma replace_eq_stem (text : List Char) :
    Emoji.replace text =
      Emoji.replace (stem text) ++ List.replicate (endSlashes text) '\\' := by
  conv_lhs => rw [← stem_append_slashes text]
  have hcolon : ':' ∉ List.replicate (endSlashes text) '\\' := by simp
  rw [Emoji.replace_append (Emoji.code?_of_no_colon hcolon), Emoji.replace_of_no_colon hcolon]

/-- Only a text with backslashes at its end or with an emoji code is not shown as it is. -/
theorem enclosed_eq_self_iff (h : '[' ∉ text) :
    enclosed text = text ↔ text.getLast? ≠ some '\\' ∧ Emoji.replace text = text := by
  rw [enclosed_of_no_bracket h, ← endSlashes_eq_zero_iff, replace_eq_stem text]
  constructor
  · intro heq
    have hnone : endSlashes text = 0 := by
      have hcount := congrArg (List.count '\\') (heq.trans (stem_append_slashes text).symm)
      rw [List.count_append, List.count_append, Emoji.count_replace, count_shownClosing,
        List.count_replicate_self] at hcount
      omega
    rw [hnone] at heq ⊢
    exact ⟨rfl, heq⟩
  · rintro ⟨hnone, heq⟩
    rw [hnone] at heq ⊢
    exact heq

/-- A text without an emoji code. -/
lemma enclosed_of_verbatim (h : '[' ∉ text) (hcodes : Emoji.replace text = text) :
    enclosed text = stem text ++ shownClosing (endSlashes text) := by
  rw [replace_eq_stem text] at hcodes
  have hstem := List.append_cancel_right (hcodes.trans (stem_append_slashes text).symm)
  rw [enclosed_of_no_bracket h, hstem]

lemma bracket_mem_enclosed_iff (h : '[' ∉ text) (hcodes : Emoji.replace text = text) :
    '[' ∈ enclosed text ↔ endSlashes text % 2 = 1 := by
  have hstem := not_mem_stem h
  simp [enclosed_of_verbatim h hcodes, shownClosing, hstem]

/-- What is shown tells texts without brackets and emoji codes apart. -/
theorem enclosed_injOn {other : List Char} (htext : '[' ∉ text) (hother : '[' ∉ other)
    (hcodes : Emoji.replace text = text) (hotherCodes : Emoji.replace other = other)
    (h : enclosed text = enclosed other) : text = other := by
  have hodd : endSlashes text % 2 = 1 ↔ endSlashes other % 2 = 1 := by
    rw [← bracket_mem_enclosed_iff htext hcodes, ← bracket_mem_enclosed_iff hother hotherCodes, h]
  have hfront : stem text ++ List.replicate (endSlashes text / 2) '\\' =
      stem other ++ List.replicate (endSlashes other / 2) '\\' := by
    rw [enclosed_of_verbatim htext hcodes, enclosed_of_verbatim hother hotherCodes] at h
    unfold shownClosing at h
    simp only [← List.append_assoc, hodd] at h
    exact List.append_cancel_right h
  have hstem : stem text = stem other := by
    have hstems := congrArg stem hfront
    rw [stem_append_replicate, stem_append_replicate] at hstems
    unfold stem at hstems ⊢
    rwa [List.rdropWhile_idempotent, List.rdropWhile_idempotent] at hstems
  have hslashes : endSlashes text = endSlashes other := by
    have hlength := congrArg List.length hfront
    rw [hstem, List.length_append, List.length_append, List.length_replicate,
      List.length_replicate] at hlength
    omega
  rw [← stem_append_slashes text, ← stem_append_slashes other, hstem, hslashes]

end SlopLint.Console.Markup
