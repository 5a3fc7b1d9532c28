import Mathlib.Tactic.Lemma
import SlopLint.Proofs.OccurrencePlaces
import SlopLint.Proofs.PlainForms
import SlopLint.Rule.Builtin

/-!
# Forms that start with a word

Many rules look for a form that starts with one of some words: a colon and `any`, a call by name, a
marker in a comment. As no such word goes on in one of the same form and none of their characters
stands behind it, two occurrences never overlap and each of them has one extent. So a search from
left to right, which may only pass over what it has taken, finds every occurrence there is.
-/

namespace SlopLint

open Text

/-- What a form consists of: one of its words, and a text behind it that may depend on what comes
after. -/
structure Form where
  words : List String
  rest : List Char → List Char → Prop

namespace Form

/-- A text in front of another has the form. -/
def Holds (form : Form) (found after : List Char) : Prop :=
  ∃ word ∈ form.words, ∃ tail, found = word.toList ++ tail ∧ form.rest tail after

/-- A text of the form stands on a line behind so many characters. -/
def StandsAt (form : Form) (line : Line) (start : Nat) (found : List Char) : Prop :=
  ∃ before after, line = before ++ found ++ after ∧ before.length = start ∧ form.Holds found after

/-- The characters of the words. -/
def letters (form : Form) : List Char :=
  form.words.flatMap String.toList

/-- Occurrences of the form are apart: a word of it is seen from where its characters end, it is the
end of no other one, and the text behind it has none of these characters and one extent. -/
structure Separated (form : Form) : Prop where
  full : ∀ word ∈ form.words, word.toList ≠ []
  suffix_eq : ∀ word ∈ form.words, ∀ other ∈ form.words, other.toList <:+ word.toList →
    other = word
  next : ∀ tail after, form.rest tail after → ∀ c ∈ (tail ++ after).head?, c ∉ form.letters
  tail : ∀ tail after, form.rest tail after → ∀ c ∈ tail, c ∉ form.letters
  unique : ∀ tail after tail' after', form.rest tail after → form.rest tail' after' →
    tail ++ after = tail' ++ after' → tail = tail'

end Form

/-- A text is cut in one way into a run of some characters and a rest that starts with another. -/
lemma run_unique {p : Char → Prop} {run run' rest rest' : List Char} (hrun : ∀ c ∈ run, p c)
    (hrun' : ∀ c ∈ run', p c) (hrest : ∀ c ∈ rest.head?, ¬ p c) (hrest' : ∀ c ∈ rest'.head?, ¬ p c)
    (heq : run ++ rest = run' ++ rest') : run = run' ∧ rest = rest' := by
  induction run generalizing run' with
  | nil =>
    cases run' with
    | nil => exact ⟨rfl, heq⟩
    | cons c run' =>
      rw [List.nil_append] at heq
      rw [heq] at hrest
      exact absurd (hrun' c List.mem_cons_self) (hrest c rfl)
  | cons c run ih =>
    cases run' with
    | nil =>
      rw [List.nil_append] at heq
      rw [← heq] at hrest'
      exact absurd (hrun c List.mem_cons_self) (hrest' c rfl)
    | cons d run' =>
      obtain ⟨rfl, hrests⟩ := List.cons.inj heq
      obtain ⟨rfl, rfl⟩ := ih (fun e he => hrun e (List.mem_cons_of_mem _ he))
        (fun e he => hrun' e (List.mem_cons_of_mem _ he)) hrests
      exact ⟨rfl, rfl⟩

/-- A text that starts inside of another starts behind a part of it. -/
lemma parts_of_overlap {before found after before' found' after' : List Char}
    (heq : before ++ found ++ after = before' ++ found' ++ after')
    (hle : before.length ≤ before'.length) (hlt : before'.length < before.length + found.length) :
    ∃ front back, before' = before ++ front ∧ found = front ++ back ∧ back ≠ [] ∧
      back ++ after = found' ++ after' := by
  obtain ⟨front, rfl, hrest⟩ : ∃ front, before' = before ++ front ∧
      found ++ after = front ++ (found' ++ after') := by
    rw [List.append_assoc, List.append_assoc] at heq
    rcases List.append_eq_append_iff.mp heq with ⟨front, rfl, hrest⟩ | ⟨front, rfl, hrest⟩
    · exact ⟨front, rfl, hrest⟩
    · rw [List.length_append] at hle
      obtain rfl := List.length_eq_zero_iff.mp (by omega : front.length = 0)
      exact ⟨[], by simp, by simpa using hrest.symm⟩
  rw [List.length_append] at hlt
  rcases List.append_eq_append_iff.mp hrest with ⟨more, rfl, -⟩ | ⟨back, rfl, hback⟩
  · rw [List.length_append] at hlt
    omega
  · refine ⟨front, back, rfl, rfl, ?_, hback.symm⟩
    rintro rfl
    simp at hlt

namespace Form

lemma mem_letters {form : Form} {word : String} (hword : word ∈ form.words) {c : Char}
    (hc : c ∈ word.toList) : c ∈ form.letters :=
  List.mem_flatMap.mpr ⟨word, hword, hc⟩

section Apart

variable {form : Form} (hform : form.Separated)
include hform

/-- Behind a place at which a part of a word ends, an occurrence is that part and what follows. -/
lemma eq_of_part {word : String} (hword : word ∈ form.words) {part tail after found' after' : List Char}
    (hpart : part <:+ word.toList) (hrest : form.rest tail after) (hholds : form.Holds found' after')
    (heq : part ++ (tail ++ after) = found' ++ after') : part = word.toList ∧ found' = part ++ tail := by
  obtain ⟨other, hother, tail', rfl, hrest'⟩ := hholds
  rw [List.append_assoc] at heq
  obtain ⟨rfl, hbehind⟩ := run_unique (p := (· ∈ form.letters))
    (fun c hc => mem_letters hword (hpart.mem hc)) (fun c hc => mem_letters hother hc)
    (hform.next tail after hrest) (hform.next tail' after' hrest') heq
  obtain rfl := hform.suffix_eq word hword other hother hpart
  exact ⟨rfl, by rw [hform.unique _ _ _ _ hrest hrest' hbehind]⟩

/-- No occurrence starts inside of another. -/
lemma not_holds_inside {front back after found' after' : List Char} (hfront : front ≠ [])
    (hback : back ≠ []) (h : form.Holds (front ++ back) after) (h' : form.Holds found' after')
    (heq : back ++ after = found' ++ after') : False := by
  obtain ⟨word, hword, tail, hsplit, hrest⟩ := h
  rcases List.append_eq_append_iff.mp hsplit with ⟨part, hpart, rfl⟩ | ⟨gone, hgone, rfl⟩
  · rw [List.append_assoc] at heq
    have hall := (eq_of_part hform hword (hpart ▸ List.suffix_append front part) hrest h' heq).1
    rw [hpart] at hall
    have hlength := congrArg List.length hall
    rw [List.length_append] at hlength
    have hpos := List.length_pos_iff.mpr hfront
    omega
  · -- What starts behind the word starts with none of the characters of words.
    obtain ⟨other, hother, tail', rfl, -⟩ := h'
    cases back with
    | nil => exact hback rfl
    | cons c back =>
      cases hletters : other.toList with
      | nil => exact hform.full other hother hletters
      | cons d letters =>
        rw [hletters, List.cons_append, List.cons_append] at heq
        obtain ⟨rfl, -⟩ := List.cons.inj heq
        refine hform.tail _ after hrest c (List.mem_append_right _ List.mem_cons_self) ?_
        exact mem_letters hother (hletters ▸ List.mem_cons_self)

lemma StandsAt.full {line : Line} {start : Nat} {found : List Char}
    (h : form.StandsAt line start found) : found ≠ [] := by
  obtain ⟨before, after, -, -, word, hword, tail, rfl, -⟩ := h
  exact List.append_ne_nil_of_left_ne_nil (hform.full word hword) tail

/-- An occurrence that starts within another is the same. -/
lemma eq_of_standsAt {line : Line} {start start' : Nat} {found found' : List Char}
    (h : form.StandsAt line start found) (h' : form.StandsAt line start' found')
    (hle : start ≤ start') (hlt : start' < start + found.length) :
    start = start' ∧ found = found' := by
  obtain ⟨before, after, rfl, rfl, hholds⟩ := h
  obtain ⟨before', after', hline, rfl, hholds'⟩ := h'
  obtain ⟨front, back, hfront, hback, hbackne, hsame⟩ := parts_of_overlap hline hle hlt
  by_cases hfrontne : front = []
  · subst hfrontne
    rw [List.nil_append] at hback
    subst hback
    obtain ⟨word, hword, tail, rfl, htail⟩ := hholds
    rw [List.append_assoc] at hsame
    have heq := (eq_of_part hform hword List.suffix_rfl htail hholds' hsame).2
    exact ⟨by rw [hfront, List.append_nil], heq.symm⟩
  · exact absurd (hback ▸ hholds) fun hholds =>
      not_holds_inside hform hfrontne hbackne hholds hholds' hsame

end Apart

end Form

/-- The pattern of a rule takes the texts of a form, wherever they stand. -/
structure Rule.Expresses (rule : Rule) (form : Form) : Prop where
  regular : rule.pattern.node.isRegular = true
  takes_iff : ∀ before text after,
    rule.pattern.node.takes before text after ↔ form.Holds text after

lemma expresses_of_node {rule : Rule} {form : Form} {node : Pattern.Node}
    (hnode : rule.pattern.node = node) (hregular : node.isRegular = true)
    (htakes : ∀ {before text after}, node.takes before text after ↔ form.Holds text after) :
    rule.Expresses form := by
  subst hnode
  exact ⟨hregular, fun _ _ _ => htakes⟩

section Expressed

variable {form : Form} {rule : Rule} {line : Line} (hrule : rule.Expresses form)
include hrule

lemma standsAt_of_mem_occurrences {occurrence : Pattern.Occurrence}
    (h : occurrence ∈ rule.pattern.occurrences line) :
    form.StandsAt line occurrence.start occurrence.text := by
  obtain ⟨-, before, after, hline, hstart, htaken⟩ :=
    Pattern.takes_of_mem_occurrences hrule.regular h
  exact ⟨before, after, hline, hstart, (hrule.takes_iff _ _ _).mp htaken⟩

/-- What has the form starts inside of an occurrence of the pattern. -/
lemma exists_occurrence_of_standsAt {start : Nat} {found : List Char} (hfull : found ≠ [])
    (h : form.StandsAt line start found) : ∃ occurrence ∈ rule.pattern.occurrences line,
      occurrence.start ≤ start ∧ start < occurrence.start + occurrence.text.length := by
  obtain ⟨before, after, rfl, rfl, hholds⟩ := h
  rw [List.append_assoc]
  exact Pattern.occurrences_cover_of_takes hrule.regular hfull
    ((hrule.takes_iff before.reverse found after).mpr hholds)

/-- The matches of a rule that expresses a separated form are its occurrences. -/
theorem mem_ruleMatches_iff (hform : form.Separated) {file : String} {number : Int}
    {found : Match} : found ∈ Scan.ruleMatches file number line rule ↔
      ∃ start text, form.StandsAt line start text ∧
        found = ⟨file, number, start + 1, String.ofList text, rule.id⟩ := by
  unfold Scan.ruleMatches
  rw [List.mem_map]
  constructor
  · rintro ⟨occurrence, hoccurrence, rfl⟩
    exact ⟨occurrence.start, occurrence.text, standsAt_of_mem_occurrences hrule hoccurrence, rfl⟩
  · rintro ⟨start, text, hhere, rfl⟩
    obtain ⟨occurrence, hoccurrence, hle, hlt⟩ :=
      exists_occurrence_of_standsAt hrule (hhere.full hform) hhere
    have hstands := standsAt_of_mem_occurrences hrule hoccurrence
    obtain ⟨hstart, htext⟩ := Form.eq_of_standsAt hform hstands hhere hle hlt
    exact ⟨occurrence, hoccurrence, by rw [hstart, htext]⟩

end Expressed

/-- A rule finds a form: its matches come from left to right, they are the occurrences of the form
with their whole extent, and there is one where the form stands. -/
structure Rule.Finds (rule : Rule) (form : Form) (file : String) (number : Int) (line : Line) :
    Prop where
  increasing : (Scan.ruleMatches file number line rule).Pairwise
    fun a b : Match => a.column < b.column
  mem_iff : ∀ found, found ∈ Scan.ruleMatches file number line rule ↔
    ∃ start text, form.StandsAt line start text ∧
      found = ⟨file, number, start + 1, String.ofList text, rule.id⟩
  one : ∀ start text, form.StandsAt line start text →
    ∃! found, found ∈ Scan.ruleMatches file number line rule ∧ found.column = start + 1

lemma finds_of_separated {rule : Rule} {form : Form} (hform : form.Separated)
    (hrule : rule.Expresses form) (file : String) (number : Int) (line : Line) :
    rule.Finds form file number line where
  increasing := by
    refine (pairwise_ruleMatches file number line rule).imp_of_mem ?_
    intro a b ha _ hab
    have hfull := (eq_of_mem_ruleMatches ha).1
    have hlength : a.text.length ≠ 0 := mt String.length_eq_zero_iff.mp hfull
    omega
  mem_iff found := mem_ruleMatches_iff hrule hform
  one := by
    intro start text hstands
    refine ⟨_, ⟨(mem_ruleMatches_iff hrule hform).mpr ⟨start, text, hstands, rfl⟩, rfl⟩, ?_⟩
    rintro _ ⟨hfound, hcolumn⟩
    obtain ⟨start', text', hstands', rfl⟩ := (mem_ruleMatches_iff hrule hform).mp hfound
    obtain rfl : start' = start := by
      dsimp only at hcolumn
      omega
    have hpos := List.length_pos_iff.mpr (hstands.full hform)
    obtain ⟨-, rfl⟩ := Form.eq_of_standsAt hform hstands hstands' (Nat.le_refl _) (by omega)
    rfl

/-! ### The forms of the main rules -/

namespace Form

/-- An annotation with the type `any`. -/
def anyTyping : Form where
  words := [":"]
  rest tail after := ∃ gap, tail = gap ++ "any".toList ∧ IsGap gap ∧ NoWordAhead after

/-- The type `any` between angle brackets. -/
def anyArgument : Form where
  words := ["<"]
  rest tail _ := ∃ gap gap', tail = gap ++ "any".toList ++ gap' ++ ['>'] ∧ IsGap gap ∧ IsGap gap'

/-- A call that asks for something over the network. -/
def networkCall : Form where
  words := ["fetch", "axios", "http"]
  rest tail _ := ∃ gap, tail = gap ++ ['('] ∧ IsGap gap

/-- A call that writes to the console. -/
def consoleCall : Form where
  words := ["log", "warn", "error", "info", "debug", "trace"].map ("console." ++ ·)
  rest tail _ := tail = ['(']

/-- A marker of something left to do. -/
def marker : Form where
  words := ["TODO", "FIXME", "HACK", "XXX", "BUG"]
  rest tail after := tail = [] ∧ NoWordAhead after

section Apart

variable {form : Form} {gap gap' rest rest' : List Char}

lemma gap_unique (hgap : IsGap gap) (hgap' : IsGap gap')
    (hrest : ∀ c ∈ rest.head?, isBlank c = false) (hrest' : ∀ c ∈ rest'.head?, isBlank c = false)
    (heq : gap ++ rest = gap' ++ rest') : gap = gap' ∧ rest = rest' :=
  run_unique hgap hgap' (fun c hc => by simp [hrest c hc]) (fun c hc => by simp [hrest' c hc]) heq

lemma head?_gap_append {p : Char → Prop} (hgap : ∀ c ∈ gap, p c) (hrest : ∀ c ∈ rest.head?, p c) :
    ∀ c ∈ (gap ++ rest).head?, p c := by
  cases gap with
  | nil => exact hrest
  | cons d gap =>
    intro c hc
    obtain rfl := Option.some.inj hc
    exact hgap d List.mem_cons_self

lemma head?_word_append {p : Char → Prop} {word after : List Char} (hword : word ≠ [])
    (h : ∀ c ∈ word, p c) : ∀ c ∈ (word ++ after).head?, p c := by
  rw [List.head?_append_of_ne_nil _ hword]
  exact fun c hc => h c (List.mem_of_head? hc)

/-- The type `any` has one extent up to a closing mark. -/
lemma any_unique (mark : Char) (hmark : isBlank mark = false) {gap₁ gap₂ gap₁' gap₂' : List Char}
    (hgap₁ : IsGap gap₁) (hgap₂ : IsGap gap₂) (hgap₁' : IsGap gap₁') (hgap₂' : IsGap gap₂')
    (heq : gap₁ ++ "any".toList ++ gap₂ ++ [mark] ++ rest =
      gap₁' ++ "any".toList ++ gap₂' ++ [mark] ++ rest') :
    gap₁ = gap₁' ∧ gap₂ = gap₂' ∧ rest = rest' := by
  simp only [List.append_assoc] at heq
  have hany : ∀ c ∈ "any".toList, isBlank c = false := List.forall_iff_forall_mem.mp (by decide)
  have hclose : ∀ c ∈ [mark], isBlank c = false := List.forall_mem_singleton.mpr hmark
  have hanyHead : ∀ rest : List Char, ∀ c ∈ ("any".toList ++ rest).head?, isBlank c = false :=
    fun rest => head?_word_append (by decide) hany
  have hcloseHead : ∀ rest : List Char, ∀ c ∈ ([mark] ++ rest).head?, isBlank c = false :=
    fun rest => head?_word_append (List.cons_ne_nil _ _) hclose
  obtain ⟨rfl, hbehind⟩ := gap_unique hgap₁ hgap₁' (hanyHead _) (hanyHead _) heq
  obtain ⟨rfl, hend⟩ :=
    gap_unique hgap₂ hgap₂' (hcloseHead _) (hcloseHead _) (List.append_cancel_left hbehind)
  exact ⟨rfl, rfl, List.append_cancel_left hend⟩

lemma not_mem_letters_of_blank (hform : ∀ d ∈ form.letters, isBlank d = false) (hgap : IsGap gap) :
    ∀ c ∈ gap, c ∉ form.letters := by
  intro c hc hmem
  have hblank := hgap c hc
  rw [hform c hmem] at hblank
  cases hblank

end Apart

/-- A form is separated when its words are apart and what is behind them is a gap and an ending, none
of the characters there being one of a word. -/
lemma separated_of_gap {form : Form} (ending : List Char) (hwords : ∀ word ∈ form.words,
      word.toList ≠ [] ∧ ∀ other ∈ form.words, other.toList <:+ word.toList → other = word)
    (hletters : ∀ c ∈ form.letters, isBlank c = false) (hfull : ending ≠ [])
    (hending : ∀ c ∈ ending, c ∉ form.letters ∧ isBlank c = false)
    (hrest : ∀ tail after, form.rest tail after → ∃ gap, tail = gap ++ ending ∧ IsGap gap) :
    form.Separated where
  full word hword := (hwords word hword).1
  suffix_eq word hword := (hwords word hword).2
  next := by
    intro tail after h
    obtain ⟨gap, rfl, hgap⟩ := hrest tail after h
    rw [List.append_assoc]
    exact head?_gap_append (not_mem_letters_of_blank hletters hgap)
      (head?_word_append hfull fun c hc => (hending c hc).1)
  tail := by
    intro tail after h c hc
    obtain ⟨gap, rfl, hgap⟩ := hrest tail after h
    rcases List.mem_append.mp hc with hc | hc
    · exact not_mem_letters_of_blank hletters hgap c hc
    · exact (hending c hc).1
  unique := by
    intro tail after tail' after' h h' heq
    obtain ⟨gap, rfl, hgap⟩ := hrest tail after h
    obtain ⟨gap', rfl, hgap'⟩ := hrest tail' after' h'
    rw [List.append_assoc, List.append_assoc] at heq
    have hnext : ∀ rest : List Char, ∀ c ∈ (ending ++ rest).head?, isBlank c = false :=
      fun rest => head?_word_append hfull fun c hc => (hending c hc).2
    rw [(gap_unique hgap hgap' (hnext after) (hnext after') heq).1]

lemma separated_anyTyping : anyTyping.Separated := by
  refine separated_of_gap "any".toList (by decide) (List.forall_iff_forall_mem.mp (by decide))
    (by decide) (List.forall_iff_forall_mem.mp (by decide)) ?_
  rintro _ after ⟨gap, rfl, hgap, -⟩
  exact ⟨gap, rfl, hgap⟩

lemma separated_networkCall : networkCall.Separated := by
  refine separated_of_gap ['('] (by decide) (List.forall_iff_forall_mem.mp (by decide))
    (by decide) (List.forall_iff_forall_mem.mp (by decide)) ?_
  rintro _ after ⟨gap, rfl, hgap⟩
  exact ⟨gap, rfl, hgap⟩

lemma separated_consoleCall : consoleCall.Separated := by
  refine separated_of_gap ['('] (by decide) (List.forall_iff_forall_mem.mp (by decide))
    (by decide) (List.forall_iff_forall_mem.mp (by decide)) ?_
  rintro _ after rfl
  exact ⟨[], rfl, nofun⟩

lemma separated_anyArgument : anyArgument.Separated := by
  have hletters : ∀ c ∈ anyArgument.letters, isBlank c = false :=
    List.forall_iff_forall_mem.mp (by decide)
  have hany : ∀ c ∈ "any".toList, c ∉ anyArgument.letters ∧ isBlank c = false :=
    List.forall_iff_forall_mem.mp (by decide)
  have hclose : ∀ c ∈ ['>'], c ∉ anyArgument.letters ∧ isBlank c = false :=
    List.forall_iff_forall_mem.mp (by decide)
  refine ⟨by decide, by decide, ?_, ?_, ?_⟩
  · rintro _ after ⟨gap, gap', rfl, hgap, -⟩
    rw [List.append_assoc, List.append_assoc, List.append_assoc]
    exact head?_gap_append (not_mem_letters_of_blank hletters hgap)
      (head?_word_append (by decide) fun c hc => (hany c hc).1)
  · rintro _ after ⟨gap, gap', rfl, hgap, hgap'⟩ c hc
    simp only [List.mem_append] at hc
    rcases hc with ((hc | hc) | hc) | hc
    · exact not_mem_letters_of_blank hletters hgap c hc
    · exact (hany c hc).1
    · exact not_mem_letters_of_blank hletters hgap' c hc
    · exact (hclose c hc).1
  · rintro _ after _ after' ⟨gap₁, gap₂, rfl, hgap₁, hgap₂⟩ ⟨gap₁', gap₂', rfl, hgap₁', hgap₂'⟩ heq
    obtain ⟨rfl, rfl, -⟩ := any_unique '>' (by decide) hgap₁ hgap₂ hgap₁' hgap₂' heq
    rfl

lemma separated_marker : marker.Separated where
  full := by decide
  suffix_eq := by decide
  next := by
    rintro _ after ⟨rfl, hafter⟩ c hc hmem
    have hletters : ∀ d ∈ marker.letters, isWord d = true :=
      List.forall_iff_forall_mem.mp (by decide)
    have hword := hletters c hmem
    rw [hafter c hc] at hword
    cases hword
  tail := by
    rintro _ after ⟨rfl, -⟩ c hc
    cases hc
  unique := by
    rintro _ after _ after' ⟨rfl, -⟩ ⟨rfl, -⟩ -
    rfl

/-! ### Their patterns -/

section Patterns

open Pattern (Node)
open Pattern.Plain
open Scope (plainMode)

variable {before text after : List Char}

def anyTypingNode : Node :=
  .sequence (mark ':' :: blanks :: (plainMode.word "any".toList ++ [boundary]))

def anyArgumentNode : Node :=
  .sequence (mark '<' :: blanks :: (plainMode.word "any".toList ++ [blanks, mark '>']))

def networkCallNode : Node :=
  .sequence [oneOf 1 networkCall.words, blanks, mark '(']

def consoleCallNode : Node :=
  .sequence (plainMode.word "console.".toList ++
    [oneOf 1 ["log", "warn", "error", "info", "debug", "trace"], mark '('])

def markerNode : Node :=
  .sequence [oneOf 1 marker.words, boundary]

lemma takes_anyTypingNode :
    anyTypingNode.takes before text after ↔ anyTyping.Holds text after := by
  have hword : "any".toList.getLast?.any isWord = true := by decide
  unfold anyTypingNode
  constructor
  · intro h
    obtain ⟨_, rfl, hrest⟩ := takes_mark_cons.mp h
    obtain ⟨gap, _, rfl, hgap, hany⟩ := takes_blanks_cons.mp hrest
    obtain ⟨_, rfl, hend⟩ := takes_word_append.mp hany
    obtain ⟨rfl, hahead⟩ := (takes_boundary hword).mp hend
    rw [List.append_nil]
    exact ⟨":", List.mem_singleton.mpr rfl, _, rfl, gap, rfl, hgap, hahead⟩
  · rintro ⟨_, hmem, _, rfl, gap, rfl, hgap, hahead⟩
    obtain rfl := List.mem_singleton.mp hmem
    refine takes_mark_cons.mpr ⟨_, rfl, takes_blanks_cons.mpr ⟨gap, _, rfl, hgap, ?_⟩⟩
    refine takes_word_append.mpr ⟨[], (List.append_nil _).symm, ?_⟩
    exact (takes_boundary hword).mpr ⟨rfl, hahead⟩

lemma takes_anyArgumentNode :
    anyArgumentNode.takes before text after ↔ anyArgument.Holds text after := by
  unfold anyArgumentNode
  constructor
  · intro h
    obtain ⟨_, rfl, hrest⟩ := takes_mark_cons.mp h
    obtain ⟨gap, _, rfl, hgap, hany⟩ := takes_blanks_cons.mp hrest
    obtain ⟨_, rfl, hclose⟩ := takes_word_append.mp hany
    obtain ⟨gap', _, rfl, hgap', hend⟩ := takes_blanks_cons.mp hclose
    obtain ⟨_, rfl, rfl⟩ := takes_mark_cons.mp hend
    exact ⟨"<", List.mem_singleton.mpr rfl, _, rfl, gap, gap', by simp, hgap, hgap'⟩
  · rintro ⟨_, hmem, _, rfl, gap, gap', rfl, hgap, hgap'⟩
    obtain rfl := List.mem_singleton.mp hmem
    rw [List.append_assoc, List.append_assoc]
    refine takes_mark_cons.mpr ⟨_, rfl, takes_blanks_cons.mpr ⟨gap, _, rfl, hgap, ?_⟩⟩
    refine takes_word_append.mpr ⟨_, rfl, takes_blanks_cons.mpr ⟨gap', _, rfl, hgap', ?_⟩⟩
    exact takes_mark_cons.mpr ⟨[], rfl, rfl⟩

lemma takes_networkCallNode :
    networkCallNode.takes before text after ↔ networkCall.Holds text after := by
  have hwords : networkCall.words ≠ [] := by decide
  unfold networkCallNode
  constructor
  · intro h
    obtain ⟨word, hmem, _, rfl, hrest⟩ := (takes_oneOf_cons hwords).mp h
    obtain ⟨gap, _, rfl, hgap, hend⟩ := takes_blanks_cons.mp hrest
    obtain ⟨_, rfl, rfl⟩ := takes_mark_cons.mp hend
    exact ⟨word, hmem, _, rfl, gap, rfl, hgap⟩
  · rintro ⟨word, hmem, _, rfl, gap, rfl, hgap⟩
    refine (takes_oneOf_cons hwords).mpr ⟨word, hmem, _, rfl, ?_⟩
    refine takes_blanks_cons.mpr ⟨gap, _, rfl, hgap, ?_⟩
    exact takes_mark_cons.mpr ⟨[], rfl, rfl⟩

lemma takes_consoleCallNode :
    consoleCallNode.takes before text after ↔ consoleCall.Holds text after := by
  unfold consoleCallNode
  constructor
  · intro h
    obtain ⟨_, rfl, hrest⟩ := takes_word_append.mp h
    obtain ⟨method, hmem, _, rfl, hend⟩ := (takes_oneOf_cons (by decide)).mp hrest
    obtain ⟨_, rfl, rfl⟩ := takes_mark_cons.mp hend
    refine ⟨"console." ++ method, List.mem_map_of_mem hmem, _, ?_, rfl⟩
    rw [String.toList_append, List.append_assoc]
  · rintro ⟨_, hmem, _, rfl, rfl⟩
    obtain ⟨method, hmethod, rfl⟩ := List.mem_map.mp hmem
    rw [String.toList_append, List.append_assoc]
    refine takes_word_append.mpr ⟨_, rfl, ?_⟩
    refine (takes_oneOf_cons (by decide)).mpr ⟨method, hmethod, _, rfl, ?_⟩
    exact takes_mark_cons.mpr ⟨[], rfl, rfl⟩

lemma takes_markerNode : markerNode.takes before text after ↔ marker.Holds text after := by
  have hwords : marker.words ≠ [] := by decide
  have hword : ∀ word ∈ marker.words, word.toList.getLast?.any isWord = true := by decide
  unfold markerNode
  constructor
  · intro h
    obtain ⟨word, hmem, _, rfl, hend⟩ := (takes_oneOf_cons hwords).mp h
    exact ⟨word, hmem, _, rfl, (takes_boundary (hword word hmem)).mp hend⟩
  · rintro ⟨word, hmem, _, rfl, h⟩
    refine (takes_oneOf_cons hwords).mpr ⟨word, hmem, _, rfl, ?_⟩
    exact (takes_boundary (hword word hmem)).mpr h

end Patterns

end Form

lemma todoComment_finds (file : String) (number : Int) (line : Line) :
    Rule.Builtin.todoComment.Finds .marker file number line :=
  finds_of_separated Form.separated_marker
    (expresses_of_node (by decide +kernel) (by decide) Form.takes_markerNode) file number line

open Rule.Builtin in
/-- The main rules find every occurrence of what they look for, and nothing else: annotations and
arguments with the type `any`, calls over the network and to the console, and markers. -/
theorem main_rules_find_forms (file : String) (number : Int) (line : Line) :
    anyTypeUsage.Finds .anyTyping file number line ∧
    genericAnyType.Finds .anyArgument file number line ∧
    missingErrorHandling.Finds .networkCall file number line ∧
    productionConsoleLog.Finds .consoleCall file number line ∧
    todoComment.Finds .marker file number line := by
  have htyping : anyTypeUsage.Expresses .anyTyping :=
    expresses_of_node (by decide +kernel) (by decide) Form.takes_anyTypingNode
  have hargument : genericAnyType.Expresses .anyArgument :=
    expresses_of_node (by decide +kernel) (by decide) Form.takes_anyArgumentNode
  have hnetwork : missingErrorHandling.Expresses .networkCall :=
    expresses_of_node (by decide +kernel) (by decide) Form.takes_networkCallNode
  have hconsole : productionConsoleLog.Expresses .consoleCall :=
    expresses_of_node (by decide +kernel) (by decide) Form.takes_consoleCallNode
  refine ⟨?_, ?_, ?_, ?_, todoComment_finds file number line⟩
  · exact finds_of_separated Form.separated_anyTyping htyping file number line
  · exact finds_of_separated Form.separated_anyArgument hargument file number line
  · exact finds_of_separated Form.separated_networkCall hnetwork file number line
  · exact finds_of_separated Form.separated_consoleCall hconsole file number line

end SlopLint
