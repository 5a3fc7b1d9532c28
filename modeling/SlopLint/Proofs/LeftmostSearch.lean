import Mathlib.Tactic.ByContra
import Mathlib.Tactic.Lemma
import SlopLint.Proofs.OccurrenceOrder
import SlopLint.Proofs.PatternLanguage

/-!
# Searches from left to right

Whatever a pattern looks like, its occurrences are found in one way: the first place at which the
pattern takes something gives an occurrence, and the next one is looked for behind it. So they are
known from what the pattern takes at each place, and patterns that take the same find the same.
-/

namespace SlopLint.Pattern

/-! ### Places in a text -/

/-- A place between two parts of a text. -/
structure Cursor.IsIn (s : Cursor) (text : List Char) : Prop where
  parts : s.before.reverse ++ s.after = text
  left_eq : s.left = s.after.length

section Places

variable {text : List Char} {s t : Cursor}

lemma isIn_between (before after : List Char) (groups : List (Nat × Captured)) :
    (Cursor.between before after groups).IsIn (before.reverse ++ after) :=
  ⟨rfl, rfl⟩

lemma isIn_lasting (text : List Char) : Cursor.Lasting (·.IsIn text) := by
  constructor
  · intro s hs
    unfold Cursor.forward
    split
    · exact hs
    · next c rest hafter =>
      refine ⟨?_, ?_⟩
      · have hparts := hs.parts
        rw [hafter] at hparts
        simpa using hparts
      · have hleft := hs.left_eq
        rw [hafter, List.length_cons] at hleft
        dsimp only
        omega
  · exact fun _ _ hs => ⟨hs.parts, hs.left_eq⟩

lemma Cursor.IsIn.length_before (hs : s.IsIn text) : s.before.length + s.left = text.length := by
  rw [← hs.parts, hs.left_eq, List.length_append, List.length_reverse]

/-- A place is known by how many characters are left behind it. -/
lemma Cursor.IsIn.eq_between (hs : s.IsIn text) {before after : List Char}
    (htext : text = before ++ after) (hleft : s.left = after.length) :
    s = .between before.reverse after s.groups := by
  have hparts : s.before.reverse = before ∧ s.after = after :=
    List.append_inj' (hs.parts.trans htext) (hs.left_eq.symm.trans hleft)
  obtain ⟨hbefore, hafter⟩ := hparts
  obtain ⟨sbefore, safter, sleft, sgroups⟩ := s
  dsimp only at hbefore hafter hleft
  rw [Cursor.between, ← hbefore, List.reverse_reverse, hafter, hleft]

end Places

/-! ### Matches that take something -/

/-- The text that a pattern takes between what is read and what is unread, an empty one not
counting. -/
def taken? (pattern : Pattern) (read unread : List Char) : Option (List Char) :=
  (matchAt pattern.node true (.between read.reverse unread [])).map fun t =>
    unread.take (unread.length - t.left)

section Taking

variable {node : Node} {s t : Cursor}

lemma matchAt_true_of_left_ne {moving : Bool} (h : matchAt node moving s = some t)
    (hleft : t.left ≠ s.left) : matchAt node true s = some t := by
  cases moving with
  | true => exact h
  | false =>
    rw [matchAt_false] at h
    obtain ⟨others, hends⟩ := List.head?_eq_some_iff.mp h
    unfold matchAt
    rw [run_goesThrough_ends, hends, List.findSome?_cons]
    simp [hleft]

lemma left_lt_of_matchAt_true (h : matchAt node true s = some t) : t.left < s.left := by
  have hle := left_le_of_mem_ends (mem_ends_of_matchAt h)
  unfold matchAt at h
  rw [run_goesThrough_ends] at h
  obtain ⟨r, _, hr⟩ := List.exists_of_findSome?_eq_some h
  split at hr
  · cases hr
  · next hmoved =>
    cases hr
    have hne : t.left ≠ s.left := by simpa using hmoved
    omega

lemma matchAt_isSome_of_true (moving : Bool) (h : (matchAt node true s).isSome) :
    (matchAt node moving s).isSome := by
  cases moving with
  | true => exact h
  | false =>
    obtain ⟨t, ht⟩ := Option.isSome_iff_exists.mp h
    rw [matchAt_false, List.isSome_head?]
    exact List.ne_nil_of_mem (mem_ends_of_matchAt ht)

end Taking

/-- What is taken reaches up to the place at which the match ends. -/
lemma taken?_eq_some_iff {pattern : Pattern} {read unread text : List Char} :
    pattern.taken? read unread = some text ↔ text ≠ [] ∧ ∃ after t, unread = text ++ after ∧
      matchAt pattern.node true (.between read.reverse unread []) = some t ∧
      t.left = after.length := by
  rw [taken?, Option.map_eq_some_iff]
  constructor
  · rintro ⟨t, hmatch, rfl⟩
    have hlt : t.left < unread.length := left_lt_of_matchAt_true hmatch
    refine ⟨?_, unread.drop (unread.length - t.left), t, (List.take_append_drop _ _).symm,
      hmatch, ?_⟩
    · apply List.ne_nil_of_length_pos
      rw [List.length_take]
      omega
    · rw [List.length_drop]
      omega
  · rintro ⟨-, after, t, rfl, hmatch, hleft⟩
    refine ⟨t, hmatch, ?_⟩
    rw [hleft, List.length_append, Nat.add_sub_cancel, List.take_left]

section Regular

variable {pattern : Pattern} (hregular : pattern.node.isRegular = true)
include hregular

lemma takes_of_taken? {read unread text : List Char} (h : pattern.taken? read unread = some text) :
    text ≠ [] ∧ ∃ after, unread = text ++ after ∧ pattern.node.takes read.reverse text after := by
  obtain ⟨hfull, after, t, rfl, hmatch, hleft⟩ := taken?_eq_some_iff.mp h
  obtain ⟨taken, unread, groups, hsplit, rfl, htakes⟩ :=
    (ends_realize pattern.node hregular).sound _ _ _ t (mem_ends_of_matchAt hmatch)
  obtain ⟨rfl, rfl⟩ := List.append_inj' hsplit hleft.symm
  exact ⟨hfull, after, rfl, htakes⟩

lemma taken?_isSome_of_takes {read found after : List Char} (hfull : found ≠ [])
    (h : pattern.node.takes read.reverse found after) :
    (pattern.taken? read (found ++ after)).isSome := by
  obtain ⟨groups, hmem⟩ :=
    (ends_realize pattern.node hregular).complete read.reverse found after [] h
  rw [taken?, Option.isSome_map]
  unfold matchAt
  rw [run_goesThrough_ends, List.findSome?_isSome_iff]
  refine ⟨_, hmem, ?_⟩
  simp [Cursor.between, hfull]

end Regular

/-! ### The first match -/

section First

variable {node : Node} {text before after : List Char} {moving : Bool} {s t : Cursor}

lemma firstMatch_cons (c : Char) :
    firstMatch node moving before (c :: after) (after.length + 1) =
      match matchAt node moving (.between before (c :: after) []) with
      | some t => some (.between before (c :: after) [], t)
      | none => firstMatch node false (c :: before) after after.length := by
  conv => lhs; unfold firstMatch
  rfl

lemma firstMatch_nil :
    firstMatch node moving before [] 0 =
      (matchAt node moving (.between before [] [])).map fun t => (.between before [] [], t) := by
  unfold firstMatch
  change (match matchAt node moving (.between before [] []) with
    | some t => some (Cursor.between before [] [], t)
    | none => none) = _
  cases matchAt node moving (.between before [] []) <;> rfl

/-- The first match is made at a place of the text, where it is not asked to move on unless this is
the place that is searched from. -/
lemma firstMatch_sound (htext : before.reverse ++ after = text)
    (h : firstMatch node moving before after after.length = some (s, t)) :
    s.IsIn text ∧ s.groups = [] ∧ s.left ≤ after.length ∧
      ∃ asked, matchAt node asked s = some t ∧ (s.left = after.length → asked = moving) := by
  induction after generalizing before moving with
  | nil =>
    rw [List.length_nil, firstMatch_nil, Option.map_eq_some_iff] at h
    obtain ⟨t, hmatch, heq⟩ := h
    cases heq
    exact ⟨htext ▸ isIn_between before [] [], rfl, Nat.le_refl _, moving, hmatch, fun _ => rfl⟩
  | cons c after ih =>
    rw [List.length_cons, firstMatch_cons] at h
    split at h
    · next hmatch =>
      cases h
      exact ⟨htext ▸ isIn_between before (c :: after) [], rfl, Nat.le_refl _, moving, hmatch,
        fun _ => rfl⟩
    · obtain ⟨hin, hgroups, hleft, asked, hmatch, -⟩ := ih (by simpa using htext) h
      refine ⟨hin, hgroups, Nat.le_succ_of_le hleft, asked, hmatch, ?_⟩
      intro hhere
      rw [List.length_cons] at hhere
      omega

/-- The first match is not made behind a place at which the pattern takes something. -/
lemma firstMatch_reaches (moving : Bool) (htext : before.reverse ++ after = text) {p : Cursor}
    (hp : p.IsIn text) (hgroups : p.groups = []) (hleft : p.left ≤ after.length)
    (htakes : (matchAt node true p).isSome) :
    ∃ s t, firstMatch node moving before after after.length = some (s, t) ∧ p.left ≤ s.left := by
  induction after generalizing before moving with
  | nil =>
    obtain ⟨t, ht⟩ := Option.isSome_iff_exists.mp htakes
    have hlt := left_lt_of_matchAt_true ht
    rw [List.length_nil] at hleft
    omega
  | cons c after ih =>
    rw [List.length_cons, firstMatch_cons]
    cases hmatch : matchAt node moving (.between before (c :: after) []) with
    | some t => exact ⟨_, t, rfl, hleft⟩
    | none =>
      dsimp only
      refine ih _ (by simpa using htext) ?_
      -- A place that is searched from in vain is not the one at which something is taken.
      have hother : p.left ≠ (c :: after).length := by
        intro hhere
        have heq := hp.eq_between htext.symm hhere
        rw [List.reverse_reverse, hgroups] at heq
        rw [heq] at htakes
        have hsome := matchAt_isSome_of_true moving htakes
        rw [hmatch] at hsome
        cases hsome
      rw [List.length_cons] at hleft hother
      omega

end First

/-! ### Searching on behind an occurrence -/

/-- In front of a text, the pattern takes nothing at the places of another one. -/
def PassesOver (pattern : Pattern) (read front after : List Char) : Prop :=
  ∀ passed rest, front = passed ++ rest → rest ≠ [] →
    pattern.taken? (read ++ passed) (rest ++ after) = none

/-- The occurrences that a search tells from a place on: it passes over a text at whose places
nothing is taken, tells what is taken behind it, and goes on from there. -/
inductive Scans (pattern : Pattern) : List Char → List Char → List Occurrence → Prop
  | done {read unread : List Char} (hpasses : pattern.PassesOver read unread []) :
    Scans pattern read unread []
  | next {read unread : List Char} {others : List Occurrence} (front text after : List Char)
    (hunread : unread = front ++ (text ++ after))
    (hpasses : pattern.PassesOver read front (text ++ after))
    (htaken : pattern.taken? (read ++ front) (text ++ after) = some text)
    (hothers : Scans pattern (read ++ front ++ text) after others) :
    Scans pattern read unread (⟨(read ++ front).length, text⟩ :: others)

section Scanning

variable {pattern : Pattern} {read front unread after : List Char} {found : List Occurrence}

lemma PassesOver.append {front' : List Char} (h : pattern.PassesOver read front (front' ++ after))
    (h' : pattern.PassesOver (read ++ front) front' after) :
    pattern.PassesOver read (front ++ front') after := by
  intro passed rest heq hfull
  rcases List.append_eq_append_iff.mp heq with ⟨part, rfl, rfl⟩ | ⟨part, rfl, rfl⟩
  · rw [← List.append_assoc]
    exact h' part rest rfl hfull
  · by_cases hpart : part = []
    · subst hpart
      simpa using h' [] front' rfl hfull
    · rw [List.append_assoc]
      exact h passed part rfl hpart

/-- A place at which something is taken is not passed over. -/
lemma PassesOver.eq_nil {part : List Char} (h : pattern.PassesOver read (front ++ part) after)
    (htaken : (pattern.taken? (read ++ front) (part ++ after)).isSome) : part = [] := by
  by_contra hfull
  rw [h front part rfl hfull] at htaken
  cases htaken

/-- A text that is passed over may be put in front of a search. -/
lemma Scans.behind (hpasses : pattern.PassesOver read front unread)
    (h : pattern.Scans (read ++ front) unread found) :
    pattern.Scans read (front ++ unread) found := by
  cases h with
  | done hnone =>
    refine .done (PassesOver.append ?_ hnone)
    rwa [List.append_nil]
  | next front' text after hunread hnone htaken hothers =>
    subst hunread
    rw [List.append_assoc read] at htaken hothers ⊢
    exact .next (front ++ front') text after (List.append_assoc _ _ _).symm
      (hpasses.append hnone) htaken hothers

/-- The place of the first occurrence is settled: it is passed over by no other. -/
lemma PassesOver.front_eq {front' text text' after' : List Char}
    (hpasses : pattern.PassesOver read front (text ++ after))
    (htaken : pattern.taken? (read ++ front) (text ++ after) = some text)
    (hpasses' : pattern.PassesOver read front' (text' ++ after'))
    (htaken' : pattern.taken? (read ++ front') (text' ++ after') = some text')
    (heq : front ++ (text ++ after) = front' ++ (text' ++ after')) : front = front' := by
  rcases List.append_eq_append_iff.mp heq with ⟨part, rfl, hrest⟩ | ⟨part, rfl, hrest⟩
  · rw [hrest] at htaken
    rw [hpasses'.eq_nil (Option.isSome_of_eq_some htaken), List.append_nil]
  · rw [hrest] at htaken'
    rw [hpasses.eq_nil (Option.isSome_of_eq_some htaken'), List.append_nil]

/-- A search has one result. -/
theorem Scans.unique {found' : List Occurrence} (h : pattern.Scans read unread found)
    (h' : pattern.Scans read unread found') : found = found' := by
  have hnever : ∀ {read front text after : List Char},
      pattern.PassesOver read (front ++ (text ++ after)) [] →
        pattern.taken? (read ++ front) (text ++ after) = some text → False := by
    intro read front text after hpasses htaken
    refine (taken?_eq_some_iff.mp htaken).1 (List.append_eq_nil_iff.mp (hpasses.eq_nil ?_)).1
    rw [List.append_nil, htaken]
    rfl
  induction h generalizing found' with
  | done hpasses =>
    cases h' with
    | done => rfl
    | next front text after hunread _ htaken _ => exact (hnever (hunread ▸ hpasses) htaken).elim
  | next front text after hunread hpasses htaken _ ih =>
    cases h' with
    | done hpasses' => exact (hnever (hunread ▸ hpasses') htaken).elim
    | next front' text' after' hunread' hpasses' htaken' hothers' =>
      have heq := hunread.symm.trans hunread'
      obtain rfl := hpasses.front_eq htaken hpasses' htaken' heq
      have hrest := List.append_cancel_left heq
      rw [hrest, htaken'] at htaken
      obtain rfl := Option.some.inj htaken
      obtain rfl := List.append_cancel_left hrest
      rw [ih hothers']

/-- An occurrence is what is taken at its place. -/
lemma Scans.sound {occurrence : Occurrence} (h : pattern.Scans read unread found)
    (hmem : occurrence ∈ found) :
    ∃ before after, unread = before ++ (occurrence.text ++ after) ∧
      occurrence.start = (read ++ before).length ∧
      pattern.taken? (read ++ before) (occurrence.text ++ after) = some occurrence.text := by
  induction h with
  | done => cases hmem
  | next front text after hunread _ htaken _ ih =>
    rcases List.mem_cons.mp hmem with rfl | hmem
    · exact ⟨front, after, hunread, rfl, htaken⟩
    · obtain ⟨before, after', rfl, hstart, htaken'⟩ := ih hmem
      simp only [List.append_assoc] at hunread hstart htaken'
      exact ⟨front ++ (text ++ before), after', by simp [hunread], hstart, htaken'⟩

/-- A place at which something is taken is inside of an occurrence. -/
lemma Scans.covers {passed rest : List Char} (h : pattern.Scans read unread found)
    (hunread : unread = passed ++ rest) (htaken : (pattern.taken? (read ++ passed) rest).isSome) :
    ∃ occurrence ∈ found, occurrence.start ≤ (read ++ passed).length ∧
      (read ++ passed).length < occurrence.start + occurrence.text.length := by
  induction h generalizing passed with
  | done hpasses =>
    subst hunread
    rw [← List.append_nil rest] at htaken
    obtain rfl := hpasses.eq_nil htaken
    obtain ⟨text, htext⟩ := Option.isSome_iff_exists.mp htaken
    obtain ⟨hfull, after, -, hnil, -⟩ := taken?_eq_some_iff.mp htext
    exact absurd (List.append_eq_nil_iff.mp hnil.symm).1 hfull
  | @next read unread others front text after hfront hpasses htext _ ih =>
    have hpos := List.length_pos_iff.mpr (taken?_eq_some_iff.mp htext).1
    rcases List.append_eq_append_iff.mp (hunread.symm.trans hfront) with
      ⟨part, rfl, rfl⟩ | ⟨part, rfl, hrest⟩
    · obtain rfl := hpasses.eq_nil htaken
      exact ⟨_, List.mem_cons_self, by simp, by simpa using hpos⟩
    · by_cases hinside : part.length < text.length
      · refine ⟨_, List.mem_cons_self, ?_, ?_⟩
        · simp
        · simp only [List.length_append]
          omega
      · obtain ⟨more, rfl, rfl⟩ : ∃ more, part = text ++ more ∧ after = more ++ rest := by
          rcases List.append_eq_append_iff.mp hrest with h | ⟨more, rfl, rfl⟩
          · exact h
          · rw [List.length_append] at hinside
            obtain rfl := List.length_eq_zero_iff.mp (by omega : more.length = 0)
            exact ⟨[], by simp, by simp⟩
        have hlater : (pattern.taken? (read ++ front ++ text ++ more) rest).isSome := by
          simpa using htaken
        obtain ⟨occurrence, hmem, hcovers⟩ := ih rfl hlater
        exact ⟨occurrence, List.mem_cons_of_mem _ hmem, by simpa using hcovers⟩

/-- Patterns that take the same at all places of a text find the same in it. -/
lemma Scans.congr {other : Pattern} {text : List Char}
    (hsame : ∀ read unread, text = read ++ unread →
      pattern.taken? read unread = other.taken? read unread)
    (htext : text = read ++ unread) (h : pattern.Scans read unread found) :
    other.Scans read unread found := by
  have hpass : ∀ {read front after : List Char}, text = read ++ (front ++ after) →
      pattern.PassesOver read front after → other.PassesOver read front after := by
    intro read front after htext hpasses passed rest hfront hfull
    rw [← hsame _ _ (by simp [htext, hfront])]
    exact hpasses passed rest hfront hfull
  induction h with
  | done hpasses => exact .done (hpass (by simpa using htext) hpasses)
  | next front found after hunread hpasses htaken _ ih =>
    subst hunread
    refine .next front found after rfl (hpass htext hpasses) ?_ (ih (by simp [htext]))
    rwa [← hsame _ _ (by simp [htext])]

end Scanning

/-! ### The search that runs -/

section Running

variable {pattern : Pattern} {node : Node} {text : List Char} {fuel : Nat} {moving : Bool}
  {place : Cursor}

lemma isIn_atStart (text : List Char) : (Cursor.atStart text).IsIn text :=
  ⟨rfl, rfl⟩

lemma occurrencesFrom_succ (hplace : place.IsIn text) :
    occurrencesFrom node text.length (fuel + 1) moving place =
      match firstMatch node moving place.before place.after place.after.length with
      | none => []
      | some (s, t) =>
        ⟨text.length - s.left, s.after.take (s.left - t.left)⟩ ::
          occurrencesFrom node text.length fuel (t.left == s.left) t := by
  rw [← hplace.left_eq]
  rfl

lemma isIn_of_matchAt {s t : Cursor} (hs : s.IsIn text) (h : matchAt node moving s = some t) :
    t.IsIn text :=
  ends_keep (isIn_lasting text) node s hs t (mem_ends_of_matchAt h)

/-- No first match is made behind a place at which something is taken. -/
lemma firstMatch_reaches_taken {before passed rest : List Char} (moving : Bool)
    (h : pattern.taken? (before.reverse ++ passed) rest ≠ none) :
    ∃ s t, firstMatch pattern.node moving before (passed ++ rest) (passed ++ rest).length =
      some (s, t) ∧ rest.length ≤ s.left := by
  have hplace := isIn_between (before.reverse ++ passed).reverse rest []
  rw [List.reverse_reverse, List.append_assoc] at hplace
  refine firstMatch_reaches moving rfl hplace rfl ?_ ?_
  · rw [List.length_append]
    exact Nat.le_add_left _ _
  · rwa [taken?, ne_eq, Option.map_eq_none_iff, ← ne_eq, Option.ne_none_iff_isSome] at h

lemma passesOver_of_firstMatch_eq_none {before after : List Char} {moving : Bool}
    (h : firstMatch pattern.node moving before after after.length = none) :
    pattern.PassesOver before.reverse after [] := by
  rintro passed rest rfl -
  rw [List.append_nil]
  by_contra htaken
  obtain ⟨s, t, hfirst, -⟩ := firstMatch_reaches_taken moving htaken
  rw [h] at hfirst
  cases hfirst

/-- The first match is made behind a text that is passed over. -/
lemma passesOver_of_firstMatch {before after : List Char} {moving : Bool} {s t : Cursor}
    (hs : s.IsIn (before.reverse ++ after)) (hleft : s.left ≤ after.length)
    (h : firstMatch pattern.node moving before after after.length = some (s, t)) :
    ∃ front, s.before.reverse = before.reverse ++ front ∧ after = front ++ s.after ∧
      pattern.PassesOver before.reverse front s.after := by
  obtain ⟨front, hbefore, rfl⟩ : ∃ front, s.before.reverse = before.reverse ++ front ∧
      after = front ++ s.after := by
    rcases List.append_eq_append_iff.mp hs.parts with ⟨back, hback, hrest⟩ | h
    · have hlength := congrArg List.length hrest
      rw [List.length_append, ← hs.left_eq] at hlength
      obtain rfl := List.length_eq_zero_iff.mp (by omega : back.length = 0)
      exact ⟨[], by rw [hback, List.append_nil, List.append_nil], hrest.symm⟩
    · exact h
  refine ⟨front, hbefore, rfl, ?_⟩
  rintro passed rest rfl hfull
  by_contra htaken
  rw [List.append_assoc] at h
  obtain ⟨s', t', hfirst, hreach⟩ := firstMatch_reaches_taken moving htaken
  rw [h] at hfirst
  obtain ⟨rfl, -⟩ := Prod.mk.inj (Option.some.inj hfirst)
  have hpos := List.length_pos_iff.mpr hfull
  rw [List.length_append, ← hs.left_eq] at hreach
  omega

/-- A place is reached from one in front of it over the characters between them. -/
lemma Cursor.IsIn.reached {s t : Cursor} (hs : s.IsIn text) (ht : t.IsIn text)
    (hle : t.left ≤ s.left) :
    t.before.reverse = s.before.reverse ++ s.after.take (s.left - t.left) ∧
      t.after = s.after.drop (s.left - t.left) := by
  refine List.append_inj' ?_ ?_
  · rw [List.append_assoc, List.take_append_drop, hs.parts, ht.parts]
  · rw [List.length_drop, ← hs.left_eq, ← ht.left_eq]
    omega

/-- A search that is not out of fuel tells what is taken from its place on, empty matches left
out. -/
lemma occurrencesFrom_scans {fuel : Nat} {moving : Bool} {place : Cursor} (hplace : place.IsIn text)
    (hfuel : 2 * place.left + (if moving then 1 else 2) ≤ fuel) :
    pattern.Scans place.before.reverse place.after
      ((occurrencesFrom pattern.node text.length fuel moving place).filter
        fun occurrence => !occurrence.text.isEmpty) := by
  induction fuel generalizing moving place with
  | zero => split at hfuel <;> omega
  | succ fuel ih =>
    rw [occurrencesFrom_succ hplace]
    cases hfirst : firstMatch pattern.node moving place.before place.after place.after.length with
    | none => exact .done (passesOver_of_firstMatch_eq_none hfirst)
    | some found =>
      obtain ⟨s, t⟩ := found
      obtain ⟨hs, hgroups, hbound, asked, hmatch, hasked⟩ := firstMatch_sound hplace.parts hfirst
      obtain ⟨front, hbefore, hafter, hpasses⟩ :=
        passesOver_of_firstMatch (hplace.parts.symm ▸ hs) hbound hfirst
      have ht := isIn_of_matchAt hs hmatch
      have hle := left_le_of_mem_ends (mem_ends_of_matchAt hmatch)
      have hlength := hs.length_before
      obtain ⟨htbefore, htafter⟩ := hs.reached ht hle
      rw [← hplace.left_eq] at hbound hasked
      by_cases hempty : t.left = s.left
      · -- An empty match where one was asked to move lies behind the place searched from.
        have hmoved : moving = true → s.left ≠ place.left := by
          intro hmoving hhere
          rw [hasked hhere, hmoving] at hmatch
          exact Nat.lt_irrefl _ (hempty ▸ left_lt_of_matchAt_true hmatch)
        have hfuel' : 2 * t.left + (if (t.left == s.left) = true then 1 else 2) ≤ fuel := by
          rw [if_pos (beq_iff_eq.mpr hempty)]
          cases moving with
          | true =>
            have hne := hmoved rfl
            rw [if_pos rfl] at hfuel
            omega
          | false =>
            rw [if_neg Bool.false_ne_true] at hfuel
            omega
        have hrest := ih ht hfuel'
        rw [hempty, Nat.sub_self] at htbefore htafter
        rw [htbefore, htafter, List.take_zero, List.append_nil, List.drop_zero, hbefore] at hrest
        rw [hafter, List.filter_cons_of_neg (by simp [hempty])]
        exact hrest.behind hpasses
      · have hfuel' : 2 * t.left + (if (t.left == s.left) = true then 1 else 2) ≤ fuel := by
          rw [if_neg (by simpa using hempty)]
          split at hfuel <;> omega
        have hrest := ih ht hfuel'
        rw [htbefore, htafter, hbefore] at hrest
        have hplace := hs.eq_between hs.parts.symm hs.left_eq
        rw [hgroups, hbefore] at hplace
        have hmatch' := matchAt_true_of_left_ne hmatch hempty
        rw [hplace] at hmatch'
        have htaken : pattern.taken? (place.before.reverse ++ front) s.after =
            some (s.after.take (s.left - t.left)) := by
          rw [taken?, hmatch', hs.left_eq]
          rfl
        have hstart : text.length - s.left = (place.before.reverse ++ front).length := by
          rw [← hbefore, List.length_reverse]
          omega
        have hfull := (taken?_eq_some_iff.mp htaken).1
        rw [List.filter_cons_of_pos (by simpa using hfull), hstart]
        refine .next front _ _ ?_ ?_ ?_ hrest
        · rw [List.take_append_drop, ← hafter]
        · rwa [List.take_append_drop]
        · rwa [List.take_append_drop]

/-- The occurrences of a pattern are those of the search from left to right. -/
theorem occurrences_scans (pattern : Pattern) (text : List Char) :
    pattern.Scans [] text (pattern.occurrences text) :=
  occurrencesFrom_scans (isIn_atStart text) (Nat.le_refl _)

lemma Scans.occurrences_eq {found : List Occurrence} (h : pattern.Scans [] text found) :
    pattern.occurrences text = found :=
  (occurrences_scans pattern text).unique h

end Running

end SlopLint.Pattern
