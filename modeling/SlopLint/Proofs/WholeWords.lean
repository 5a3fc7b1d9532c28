import Mathlib.Tactic.Lemma
import SlopLint.Proofs.WordForms

/-!
# Whole words

The rules about the type `any` and about markers mean words: a longer word that begins or ends alike
is something else. In most of their patterns a bracket, a colon or blanks part the word from what is
before it, and a boundary or a bracket from what comes after. Two patterns leave a side open: a marker
may be the end of a longer word, and the type of an index signature may be the beginning of one.
-/

namespace SlopLint

open Text

/-! ### The keyword of a match -/

/-- What a match has behind its keyword: nothing, or blanks and a closing mark. -/
def Closes : Option Char → List Char → Prop
  | none, tail => tail = []
  | some mark, tail => ∃ gap, tail = gap ++ [mark] ∧ IsGap gap

/-- A match on a line ends with a keyword and what closes it; `left` and `right` are the parts of the
line on either side of the keyword. -/
def Match.HasKeyword (found : Match) (line : Line) (word : String) (closing : Option Char)
    (left right : List Char) : Prop :=
  ∃ before front tail after, line = before ++ (front ++ word.toList ++ tail) ++ after ∧
    found.column = before.length + 1 ∧ found.text.toList = front ++ word.toList ++ tail ∧
    Closes closing tail ∧ left = before ++ front ∧ right = tail ++ after

/-- In each match of a rule on a line there is one of some keywords, with such parts of the line
behind and ahead of it. -/
def Rule.Reports (rule : Rule) (words : List String) (closing : Option Char)
    (behind ahead : List Char → Prop) (file : String) (number : Int) (line : Line) : Prop :=
  ∀ found ∈ Scan.ruleMatches file number line rule, ∃ word ∈ words, ∃ left right,
    found.HasKeyword line word closing left right ∧ behind left ∧ ahead right

/-! ### Characters beside a word -/

/-- Blanks by their numbers. -/
def blankCodes : List Nat :=
  List.range' 9 5 ++ List.range' 28 5 ++ List.range' 0x2000 11 ++
    [0x85, 0xA0, 0x1680, 0x2028, 0x2029, 0x202F, 0x205F, 0x3000]

lemma isWord_of_isBlank {c : Char} (h : isBlank c = true) : isWord c = false := by
  have hcodes : ∀ n ∈ blankCodes, isWord (Char.ofNat n) = false := by decide +kernel
  have hmem : c.toNat ∈ blankCodes := by
    simp only [blankCodes, List.mem_append, List.mem_range'_1, List.mem_cons, List.not_mem_nil]
    unfold isBlank at h
    dsimp only at h
    split at h
    · simp only [Bool.or_eq_true, Bool.and_eq_true, decide_eq_true_eq] at h
      omega
    · simp only [Bool.or_eq_true, Bool.and_eq_true, decide_eq_true_eq, beq_iff_eq] at h
      omega
  have hc := hcodes c.toNat hmem
  rwa [Char.ofNat_toNat] at hc

lemma isWord_of_mem_gap {gap : List Char} (hgap : IsGap gap) : ∀ c ∈ gap, isWord c = false :=
  fun c hc => isWord_of_isBlank (hgap c hc)

lemma noWordBehind_append {before text : List Char} (hfull : text ≠ [])
    (h : ∀ c ∈ text, isWord c = false) : NoWordBehind (before ++ text) := by
  intro c hc
  rw [List.getLast?_append_of_ne_nil _ hfull] at hc
  exact h c (List.mem_of_getLast? hc)

/-! ### Patterns that end with a keyword -/

section Keyword

open Pattern (Node)
open Pattern.Plain
open Scope (plainMode)

variable {before text after : List Char} {nodes : List Node} {c : Char}

lemma noWordBehind_of_mark (hc : isWord c = false)
    (h : (Node.sequence (nodes ++ [mark c, blanks])).takes before.reverse text after) :
    NoWordBehind (before ++ text) := by
  obtain ⟨head, _, rfl, -, htail⟩ := Pattern.takes_sequence_append.mp h
  obtain ⟨_, rfl, hblanks⟩ := takes_mark_cons.mp htail
  obtain ⟨gap, _, rfl, hgap, rfl⟩ := takes_blanks_cons.mp hblanks
  rw [List.append_nil, ← List.append_assoc]
  refine noWordBehind_append (List.cons_ne_nil _ _) ?_
  exact List.forall_mem_cons.mpr ⟨hc, isWord_of_mem_gap hgap⟩

/-- A rule reports a keyword where its pattern does, between what leads to it and what trails it. -/
lemma reports_of_takes {rule : Rule} {word : String} {closing : Option Char}
    {behind ahead : List Char → Prop} (lead trail : List Node)
    (hregular : rule.pattern.node.isRegular = true)
    (hnode : rule.pattern.node = .sequence (lead ++ (plainMode.word word.toList ++ trail)))
    (hlead : ∀ before front after, (Node.sequence lead).takes before.reverse front after →
      behind (before ++ front))
    (htrail : ∀ before tail after,
      (Node.sequence trail).takes (word.toList.reverse ++ before) tail after →
      Closes closing tail ∧ ahead (tail ++ after))
    (file : String) (number : Int) (line : Line) :
    rule.Reports [word] closing behind ahead file number line := by
  intro found hfound
  obtain ⟨occurrence, hoccurrence, rfl⟩ := List.mem_map.mp hfound
  obtain ⟨-, before, after, hline, hstart, htaken⟩ :=
    Pattern.takes_of_mem_occurrences hregular hoccurrence
  rw [hnode] at htaken
  obtain ⟨front, _, htext, hfront, hrest⟩ := Pattern.takes_sequence_append.mp htaken
  obtain ⟨tail, rfl, htail⟩ := takes_word_append.mp hrest
  obtain ⟨hcloses, hahead⟩ := htrail _ tail after htail
  rw [← List.append_assoc] at htext
  refine ⟨word, List.mem_singleton.mpr rfl, before ++ front, tail ++ after, ?_,
    hlead before front _ hfront, hahead⟩
  refine ⟨before, front, tail, after, ?_, ?_, ?_, hcloses, rfl, rfl⟩
  · rw [hline, htext]
  · dsimp only
    rw [hstart]
  · dsimp only
    rw [String.toList_ofList, htext]

lemma closes_of_boundary {word : List Char} (hword : word.getLast?.any isWord = true)
    (h : (Node.sequence [boundary]).takes (word.reverse ++ before) text after) :
    Closes none text ∧ NoWordAhead (text ++ after) := by
  obtain ⟨rfl, hahead⟩ := (takes_boundary hword).mp h
  exact ⟨rfl, hahead⟩

lemma closes_of_mark (hc : isWord c = false)
    (h : (Node.sequence [blanks, mark c]).takes before text after) :
    Closes (some c) text ∧ NoWordAhead (text ++ after) := by
  obtain ⟨gap, _, rfl, hgap, hmark⟩ := takes_blanks_cons.mp h
  obtain ⟨_, rfl, rfl⟩ := takes_mark_cons.mp hmark
  refine ⟨⟨gap, rfl, hgap⟩, ?_⟩
  rw [List.append_assoc]
  refine Form.head?_gap_append (isWord_of_mem_gap hgap) ?_
  rintro _ ⟨⟩
  exact hc

end Keyword

/-! ### The rules about the type `any` -/

section Rules

open Pattern (Node)
open Pattern.Plain
open Scope (plainMode)
open Rule.Builtin

lemma noWordBehind_of_someBlanks {before text after : List Char} {nodes : List Node}
    (h : (Node.sequence (nodes ++ [someBlanks])).takes before.reverse text after) :
    NoWordBehind (before ++ text) := by
  obtain ⟨head, gap, rfl, -, htail⟩ := Pattern.takes_sequence_append.mp h
  obtain ⟨hpasses, hone, -⟩ := Pattern.takes_repeated.mp htail
  rw [← List.append_assoc]
  refine noWordBehind_append (List.ne_nil_of_length_pos hone) ?_
  exact isWord_of_mem_gap fun c hc => passes_blank.mp (hpasses c hc)

/-- Where a type is annotated, given as an argument or asserted, the rules report it as a word. -/
lemma type_rules_report_words (file : String) (number : Int) (line : Line) :
    anyTypeUsage.Reports ["any"] none NoWordBehind NoWordAhead file number line ∧
    arrayAnyType.Reports ["any"] (some '>') NoWordBehind NoWordAhead file number line ∧
    genericAnyType.Reports ["any"] (some '>') NoWordBehind NoWordAhead file number line ∧
    functionParamAnyType.Reports ["any"] (some ')') NoWordBehind NoWordAhead file number line ∧
    unsafeTypeAssertion.Reports ["any"] none NoWordBehind NoWordAhead file number line := by
  refine ⟨?_, ?_, ?_, ?_, ?_⟩
  · exact reports_of_takes ([] ++ [mark ':', blanks]) [boundary] (by decide +kernel)
      (by decide +kernel) (fun _ _ _ => noWordBehind_of_mark (by decide))
      (fun _ _ _ => closes_of_boundary (by decide)) file number line
  · exact reports_of_takes ((plainMode.word "Array".toList ++ [blanks]) ++ [mark '<', blanks])
      [blanks, mark '>'] (by decide +kernel) (by decide +kernel)
      (fun _ _ _ => noWordBehind_of_mark (by decide)) (fun _ _ _ => closes_of_mark (by decide))
      file number line
  · exact reports_of_takes ([] ++ [mark '<', blanks]) [blanks, mark '>'] (by decide +kernel)
      (by decide +kernel) (fun _ _ _ => noWordBehind_of_mark (by decide))
      (fun _ _ _ => closes_of_mark (by decide)) file number line
  · exact reports_of_takes
      ([mark '(', blanks, .loop .greedy 0 none (.char plainMode .notNewline), blanks] ++
        [mark ':', blanks])
      [blanks, mark ')'] (by decide +kernel) (by decide +kernel)
      (fun _ _ _ => noWordBehind_of_mark (by decide)) (fun _ _ _ => closes_of_mark (by decide))
      file number line
  · exact reports_of_takes ((someBlanks :: plainMode.word "as".toList) ++ [someBlanks]) [boundary]
      (by decide +kernel) (by decide +kernel) (fun _ _ _ => noWordBehind_of_someBlanks)
      (fun _ _ _ => closes_of_boundary (by decide)) file number line

end Rules

/-! ### Index signatures -/

namespace Form

/-- What stands between the brackets of an index signature: behind blanks and a quote, if there is
one, a name and what comes with it. -/
def IsLabel (label : List Char) : Prop :=
  ∃ gap quote c other, label = gap ++ (quote ++ c :: other) ∧ IsGap gap ∧
    (∀ d ∈ quote, d ∈ "\"'`".toList) ∧ quote.length ≤ 1 ∧ isWord c = true ∧ ∀ d ∈ other, d ≠ ']'

/-- What an index signature has behind its label: a bracket and the type `any`. -/
def ClosesWithAny (text : List Char) : Prop :=
  ∃ gap gap', text = ']' :: (gap ++ (':' :: (gap' ++ "any".toList))) ∧ IsGap gap ∧ IsGap gap'

/-- An index signature with the type `any`. -/
def indexSignature : Form where
  words := ["["]
  rest tail _ := ∃ label closing, tail = label ++ closing ∧ IsLabel label ∧ ClosesWithAny closing

section Signatures

open Pattern (Node)
open Pattern.Plain
open Scope (plainMode)

/-- A quote of any kind, or none. -/
def quoteNode : Node := .loop .greedy 0 (some 1) (.char plainMode (among "\"'`".toList))

def nameNode : Node := .capture 1 (.loop .greedy 1 none (.char plainMode (.category false .word)))

def bracketedNode : Node := .loop .greedy 0 none (.char plainMode (.code true ']'.toNat))

def labelNodes : List Node := [blanks, quoteNode, nameNode, quoteNode, bracketedNode]

/-- The bracket, the colon and the blanks behind it. -/
def colonNodes : List Node := [mark ']', blanks] ++ [mark ':', blanks]

variable {before text after : List Char}

lemma ne_bracket_of_isWord {c : Char} (h : isWord c = true) : c ≠ ']' := by
  rintro rfl
  cases h

lemma ne_bracket_of_mem_quotes {c : Char} (h : c ∈ "\"'`".toList) : c ≠ ']' := by
  rintro rfl
  exact absurd h (by decide)

lemma takes_labelNodes : (Node.sequence labelNodes).takes before text after ↔ IsLabel text := by
  have hname : ∀ {before after nodes text},
      (Node.sequence (nameNode :: nodes)).takes before text after ↔
        (Node.sequence (.loop .greedy 1 none (.char plainMode (.category false .word)) :: nodes)).takes
          before text after := by
    intro before after nodes text
    rw [Pattern.takes_sequence_cons, Pattern.takes_sequence_cons]
    rfl
  unfold labelNodes quoteNode bracketedNode
  constructor
  · intro h
    obtain ⟨gap, _, rfl, hgap, hbehind⟩ := takes_blanks_cons.mp h
    obtain ⟨mark, _, rfl, ⟨hmark, -, hone⟩, hnamed⟩ := Pattern.takes_repeated_cons.mp hbehind
    obtain ⟨word, _, rfl, ⟨hword, hfull, -⟩, hclose⟩ :=
      Pattern.takes_repeated_cons.mp (hname.mp hnamed)
    obtain ⟨mark', _, rfl, ⟨hmark', -, -⟩, hend⟩ := Pattern.takes_repeated_cons.mp hclose
    obtain ⟨other, _, rfl, hother, rfl⟩ := Pattern.takes_star_cons.mp hend
    obtain ⟨c, word, rfl⟩ := List.exists_cons_of_length_pos hfull
    simp only [passes_word, passes_among, passes_other] at hmark hword hmark' hother
    obtain ⟨hc, hword⟩ := List.forall_mem_cons.mp hword
    refine ⟨gap, mark, c, word ++ (mark' ++ (other ++ [])), rfl, hgap, hmark, hone 1 rfl, hc, ?_⟩
    simp only [List.append_nil, List.forall_mem_append]
    exact ⟨fun d hd => ne_bracket_of_isWord (hword d hd), fun d hd => ne_bracket_of_mem_quotes (hmark' d hd), hother⟩
  · rintro ⟨gap, mark, c, other, rfl, hgap, hmark, hone, hc, hother⟩
    refine takes_blanks_cons.mpr ⟨gap, _, rfl, hgap, ?_⟩
    refine Pattern.takes_repeated_cons.mpr ⟨mark, _, rfl, ⟨?_, Nat.zero_le _, ?_⟩, hname.mpr ?_⟩
    · exact fun d hd => passes_among.mpr (hmark d hd)
    · rintro _ ⟨⟩
      exact hone
    refine Pattern.takes_repeated_cons.mpr ⟨[c], other, rfl, ⟨?_, Nat.le_refl _, by simp⟩, ?_⟩
    · simpa using passes_word.mpr hc
    refine Pattern.takes_repeated_cons.mpr ⟨[], other, rfl, ⟨by simp, Nat.le_refl _, by simp⟩, ?_⟩
    refine Pattern.takes_star_cons.mpr ⟨other, [], (List.append_nil _).symm, ?_, rfl⟩
    exact fun d hd => passes_other.mpr (hother d hd)

lemma takes_closingNodes :
    (Node.sequence (colonNodes ++ (plainMode.word "any".toList ++ []))).takes before text after ↔
      ClosesWithAny text := by
  change (Node.sequence (mark ']' :: blanks :: mark ':' :: blanks ::
    (plainMode.word "any".toList ++ []))).takes before text after ↔ _
  constructor
  · intro h
    obtain ⟨_, rfl, hbehind⟩ := takes_mark_cons.mp h
    obtain ⟨gap, _, rfl, hgap, hcolon⟩ := takes_blanks_cons.mp hbehind
    obtain ⟨_, rfl, hblanks⟩ := takes_mark_cons.mp hcolon
    obtain ⟨gap', _, rfl, hgap', hany⟩ := takes_blanks_cons.mp hblanks
    obtain ⟨_, rfl, rfl⟩ := takes_word_append.mp hany
    exact ⟨gap, gap', by rw [List.append_nil], hgap, hgap'⟩
  · rintro ⟨gap, gap', rfl, hgap, hgap'⟩
    refine takes_mark_cons.mpr ⟨_, rfl, takes_blanks_cons.mpr ⟨gap, _, rfl, hgap, ?_⟩⟩
    refine takes_mark_cons.mpr ⟨_, rfl, takes_blanks_cons.mpr ⟨gap', _, rfl, hgap', ?_⟩⟩
    exact takes_word_append.mpr ⟨[], (List.append_nil _).symm, rfl⟩

/-- The pattern of an index signature, parted in front of the type. -/
def indexSignatureNode : Node :=
  .sequence ((mark '[' :: labelNodes ++ colonNodes) ++ (plainMode.word "any".toList ++ []))

lemma takes_indexSignatureNode :
    indexSignatureNode.takes before text after ↔ indexSignature.Holds text after := by
  change (Node.sequence (mark '[' :: (labelNodes ++ (colonNodes ++
    (plainMode.word "any".toList ++ []))))).takes before text after ↔ _
  constructor
  · intro h
    obtain ⟨_, rfl, hrest⟩ := takes_mark_cons.mp h
    obtain ⟨label, closing, rfl, hlabel, hclosing⟩ := Pattern.takes_sequence_append.mp hrest
    exact ⟨"[", List.mem_singleton.mpr rfl, _, rfl, label, closing, rfl, takes_labelNodes.mp hlabel,
      takes_closingNodes.mp hclosing⟩
  · rintro ⟨_, hmem, _, rfl, label, closing, rfl, hlabel, hclosing⟩
    obtain rfl := List.mem_singleton.mp hmem
    refine takes_mark_cons.mpr ⟨_, rfl, Pattern.takes_sequence_append.mpr ?_⟩
    exact ⟨label, closing, rfl, takes_labelNodes.mpr hlabel, takes_closingNodes.mpr hclosing⟩

end Signatures

/-! ### Signatures that overlap -/

lemma IsLabel.ne_bracket {label : List Char} (h : IsLabel label) : ∀ c ∈ label, c ≠ ']' := by
  obtain ⟨gap, quote, c, other, rfl, hgap, hquote, -, hc, hother⟩ := h
  have hblank : isBlank ']' = false := by decide
  simp only [List.forall_mem_append, List.forall_mem_cons]
  refine ⟨?_, ?_, ne_bracket_of_isWord hc, hother⟩
  · rintro d hd rfl
    rw [hgap _ hd] at hblank
    cases hblank
  · exact fun d hd => ne_bracket_of_mem_quotes (hquote d hd)

/-- The type of a signature ends where its bracket and its colon say. -/
lemma ClosesWithAny.unique {closing closing' after after' : List Char} (h : ClosesWithAny closing)
    (h' : ClosesWithAny closing') (heq : closing ++ after = closing' ++ after') : after = after' := by
  obtain ⟨gap₁, gap₂, rfl, hgap₁, hgap₂⟩ := h
  obtain ⟨gap₁', gap₂', rfl, hgap₁', hgap₂'⟩ := h'
  have hcolon : ∀ rest : List Char, ∀ c ∈ (':' :: rest).head?, isBlank c = false := by
    rintro rest _ ⟨⟩
    decide
  have hany : ∀ rest : List Char, ∀ c ∈ ("any".toList ++ rest).head?, isBlank c = false :=
    fun rest => head?_word_append (by decide) (List.forall_iff_forall_mem.mp (by decide))
  simp only [List.cons_append, List.append_assoc, List.cons.injEq, true_and] at heq
  obtain ⟨-, htypes⟩ := gap_unique hgap₁ hgap₁' (hcolon _) (hcolon _) heq
  obtain ⟨-, hends⟩ :=
    gap_unique hgap₂ hgap₂' (hany _) (hany _) (List.cons.inj htypes).2
  exact List.append_cancel_left hends

lemma ClosesWithAny.head_eq {closing : List Char} (h : ClosesWithAny closing) (after : List Char) :
    ∀ c ∈ (closing ++ after).head?, ¬ c ≠ ']' := by
  obtain ⟨gap, gap', rfl, -⟩ := h
  rintro _ ⟨⟩ hne
  exact hne rfl

lemma ClosesWithAny.opening_not_mem {closing : List Char} (h : ClosesWithAny closing) :
    '[' ∉ closing := by
  obtain ⟨gap, gap', rfl, hgap, hgap'⟩ := h
  have hblank : ∀ {gap : List Char}, IsGap gap → '[' ∉ gap := by
    intro gap hgap hmem
    cases hgap _ hmem
  simp [hblank hgap, hblank hgap']

/-- A signature that starts inside of another ends with it. -/
lemma indexSignature_end_eq {line : Line} {start start' : Nat} {found found' : List Char}
    (h : indexSignature.StandsAt line start found)
    (h' : indexSignature.StandsAt line start' found') (hle : start ≤ start')
    (hlt : start' < start + found.length) : start + found.length = start' + found'.length := by
  obtain ⟨before, after, rfl, rfl, word, hword, _, rfl, label, closing, rfl, hlabel, hcloses⟩ := h
  obtain ⟨before', after', hline, rfl, word', hword', _, rfl, label', closing', rfl, hlabel',
    hcloses'⟩ := h'
  obtain rfl := List.mem_singleton.mp hword
  obtain rfl := List.mem_singleton.mp hword'
  obtain ⟨front, back, hfront, hback, hfull, hsame⟩ := parts_of_overlap hline hle hlt
  have hbracket : '[' ∈ back := by
    obtain ⟨c, back, rfl⟩ := List.exists_cons_of_ne_nil hfull
    obtain ⟨rfl, -⟩ := List.cons.inj hsame
    exact List.mem_cons_self
  rw [← List.append_assoc] at hback
  -- The second one starts in the label of the first, and shares its bracket.
  obtain ⟨part, hpart, rfl⟩ : ∃ part, "[".toList ++ label = front ++ part ∧ back = part ++ closing := by
    rcases List.append_eq_append_iff.mp hback with ⟨part, -, rfl⟩ | h
    · exact absurd (List.mem_append_right _ hbracket) hcloses.opening_not_mem
    · exact h
  have hinside : ∀ {label : List Char}, IsLabel label → ∀ c ∈ "[".toList ++ label, c ≠ ']' := by
    intro label hlabel
    exact List.forall_mem_cons.mpr ⟨by decide, hlabel.ne_bracket⟩
  have hpartin : ∀ c ∈ part, c ≠ ']' := fun c hc =>
    hinside hlabel c (hpart ▸ List.mem_append_right front hc)
  have hparted : part ++ (closing ++ after) = ("[".toList ++ label') ++ (closing' ++ after') := by
    simpa only [List.append_assoc] using hsame
  obtain ⟨-, hrest⟩ := run_unique (p := (· ≠ ']')) hpartin (hinside hlabel')
    (hcloses.head_eq after) (hcloses'.head_eq after') hparted
  obtain rfl := hcloses.unique hcloses' hrest
  have hlengths := congrArg List.length hline
  simp only [List.length_append] at hlengths ⊢
  omega

end Form

/-! ### The rules with an open side -/

section Open

open Pattern.Plain
open Scope (plainMode)
open Rule.Builtin

lemma Match.HasKeyword.right_eq {found : Match} {line : Line} {word : String}
    {left right : List Char} {start : Nat} {text : List Char}
    (h : found.HasKeyword line word none left right) (hcolumn : found.column = start + 1)
    (htext : found.text.toList = text) : right = line.drop (start + text.length) := by
  obtain ⟨before, front, tail, after, rfl, hstart, hfound, rfl, -, rfl⟩ := h
  obtain rfl : before.length = start := by omega
  rw [← htext, hfound, ← List.length_append, List.drop_left]

variable (file : String) (number : Int) (line : Line)

lemma indexSignatureAny_reports :
    indexSignatureAny.Reports ["any"] none NoWordBehind (fun _ => True) file number line :=
  reports_of_takes ((mark '[' :: Form.labelNodes ++ [mark ']', blanks]) ++ [mark ':', blanks]) []
    (by decide +kernel) (by decide +kernel) (fun _ _ _ => noWordBehind_of_mark (by decide))
    (fun _ tail _ htail => ⟨show Closes none tail from htail, trivial⟩) file number line

/-- The type of an index signature is reported as a word on lines on which it does not go on. -/
lemma indexSignatureAny_reports_iff :
    indexSignatureAny.Reports ["any"] none NoWordBehind NoWordAhead file number line ↔
      ∀ start text, Form.indexSignature.StandsAt line start text →
        NoWordAhead (line.drop (start + text.length)) := by
  have hrule : indexSignatureAny.Expresses .indexSignature :=
    expresses_of_node (by decide +kernel) (by decide) Form.takes_indexSignatureNode
  constructor
  · intro h start text hstands
    have hfull : text ≠ [] := by
      obtain ⟨_, _, _, _, word, hword, tail, rfl, -⟩ := hstands
      obtain rfl := List.mem_singleton.mp hword
      exact List.cons_ne_nil _ _
    obtain ⟨occurrence, hoccurrence, hle, hlt⟩ :=
      exists_occurrence_of_standsAt hrule hfull hstands
    have hcovers := standsAt_of_mem_occurrences hrule hoccurrence
    obtain ⟨word, -, left, right, hkeyword, -, hahead⟩ := h _ (List.mem_map_of_mem hoccurrence)
    rw [← Form.indexSignature_end_eq hcovers hstands hle hlt]
    rwa [hkeyword.right_eq rfl String.toList_ofList] at hahead
  · intro h found hfound
    obtain ⟨word, hword, left, right, hkeyword, hbehind, -⟩ :=
      indexSignatureAny_reports file number line found hfound
    obtain ⟨occurrence, hoccurrence, rfl⟩ := List.mem_map.mp hfound
    refine ⟨word, hword, left, right, hkeyword, hbehind, ?_⟩
    rw [hkeyword.right_eq rfl String.toList_ofList]
    exact h _ _ (standsAt_of_mem_occurrences hrule hoccurrence)

/-- A match of a marker is the marker. -/
lemma exists_marker_of_mem {found : Match}
    (h : found ∈ Scan.ruleMatches file number line todoComment) :
    ∃ left right, ∃ word ∈ Form.marker.words, found.HasKeyword line word none left right ∧
      NoWordAhead right ∧ Form.marker.StandsAt line left.length word.toList := by
  obtain ⟨_, _, hstands, rfl⟩ := ((todoComment_finds file number line).mem_iff found).mp h
  obtain ⟨before, after, rfl, rfl, word, hword, _, rfl, rfl, hahead⟩ := id hstands
  rw [List.append_nil] at hstands ⊢
  refine ⟨before, after, word, hword, ?_, hahead, hstands⟩
  exact ⟨before, [], [], after, by simp, rfl, by simp, rfl, by simp, rfl⟩

lemma todoComment_reports :
    todoComment.Reports Form.marker.words none (fun _ => True) NoWordAhead file number line := by
  intro found hfound
  obtain ⟨left, right, word, hword, hkeyword, hahead, -⟩ :=
    exists_marker_of_mem file number line hfound
  exact ⟨word, hword, left, right, hkeyword, trivial, hahead⟩

/-- Markers are reported as words on lines on which none is the end of a longer one. -/
lemma todoComment_reports_iff :
    todoComment.Reports Form.marker.words none NoWordBehind NoWordAhead file number line ↔
      ∀ start text, Form.marker.StandsAt line start text → NoWordBehind (line.take start) := by
  constructor
  · intro h start text hstands
    have hfound := ((todoComment_finds file number line).mem_iff _).mpr ⟨start, text, hstands, rfl⟩
    obtain ⟨word, hword, left, right, hkeyword, hbehind, -⟩ := h _ hfound
    obtain ⟨before, front, _, after, hline, hcolumn, htext, rfl, rfl, -⟩ := hkeyword
    obtain ⟨before', _, -, rfl, other, hother, _, rfl, rfl, -⟩ := hstands
    rw [String.toList_ofList, List.append_nil, List.append_nil] at htext
    -- No marker is the end of another.
    obtain rfl := Form.separated_marker.suffix_eq other hother word hword ⟨front, htext.symm⟩
    obtain rfl := List.self_eq_append_left.mp htext
    have hstart : before.length = before'.length := by
      dsimp only at hcolumn
      omega
    rw [hline, ← hstart, List.append_assoc, List.take_left]
    rwa [List.append_nil] at hbehind
  · intro h found hfound
    obtain ⟨left, right, word, hword, hkeyword, hahead, hstands⟩ :=
      exists_marker_of_mem file number line hfound
    have hbehind := h _ _ hstands
    obtain ⟨before, front, tail, after, hline, -, -, -, rfl, -⟩ := id hkeyword
    rw [hline, List.append_assoc front, ← List.append_assoc, List.append_assoc,
      List.take_left] at hbehind
    exact ⟨word, hword, _, right, hkeyword, hbehind, hahead⟩

end Open

open Rule.Builtin in
/-- Whatever stands around them, types and markers are reported as whole words, but for two open
sides: the type of an index signature may go on behind its match, and a marker may go on in front of
it. Lines with a signature or a marker that does so are the only ones without the law. -/
theorem keyword_rules_report_words (file : String) (number : Int) (line : Line) :
    (anyTypeUsage.Reports ["any"] none NoWordBehind NoWordAhead file number line ∧
      arrayAnyType.Reports ["any"] (some '>') NoWordBehind NoWordAhead file number line ∧
      genericAnyType.Reports ["any"] (some '>') NoWordBehind NoWordAhead file number line ∧
      functionParamAnyType.Reports ["any"] (some ')') NoWordBehind NoWordAhead file number line ∧
      unsafeTypeAssertion.Reports ["any"] none NoWordBehind NoWordAhead file number line) ∧
    (indexSignatureAny.Reports ["any"] none NoWordBehind (fun _ => True) file number line ∧
      (indexSignatureAny.Reports ["any"] none NoWordBehind NoWordAhead file number line ↔
        ∀ start text, Form.indexSignature.StandsAt line start text →
          NoWordAhead (line.drop (start + text.length)))) ∧
    todoComment.Reports Form.marker.words none (fun _ => True) NoWordAhead file number line ∧
      (todoComment.Reports Form.marker.words none NoWordBehind NoWordAhead file number line ↔
        ∀ start text, Form.marker.StandsAt line start text → NoWordBehind (line.take start)) :=
  ⟨type_rules_report_words file number line,
    ⟨indexSignatureAny_reports file number line, indexSignatureAny_reports_iff file number line⟩,
    todoComment_reports file number line, todoComment_reports_iff file number line⟩

open Rule.Builtin in
/-- The type of a signature is reported where another type begins like it, and a marker where a name
ends in one. -/
theorem open_sides_report_parts :
    ¬ indexSignatureAny.Reports ["any"] none NoWordBehind NoWordAhead "a.ts" 1
      "[key: string]: anything".toList ∧
    ¬ todoComment.Reports Form.marker.words none NoWordBehind NoWordAhead "a.ts" 1
      "const myTODO = 1;".toList := by
  constructor
  · intro h
    have hlabel : Form.IsLabel "key: string".toList :=
      ⟨[], [], 'k', "ey: string".toList, rfl, nofun, nofun, Nat.zero_le 1, by decide,
        List.forall_iff_forall_mem.mp (by decide)⟩
    have hcloses : Form.ClosesWithAny "]: any".toList :=
      ⟨[], [' '], rfl, nofun, List.forall_iff_forall_mem.mp (by decide)⟩
    have hstands : Form.indexSignature.StandsAt "[key: string]: anything".toList 0
        "[key: string]: any".toList :=
      ⟨[], "thing".toList, rfl, rfl, "[", List.mem_singleton.mpr rfl, _, rfl, _, _, rfl, hlabel,
        hcloses⟩
    have hahead := (indexSignatureAny_reports_iff "a.ts" 1 _).mp h _ _ hstands
    exact absurd (hahead 't' rfl) (by decide)
  · intro h
    have hahead : NoWordAhead " = 1;".toList := by
      rintro _ ⟨⟩
      decide
    have hstands : Form.marker.StandsAt "const myTODO = 1;".toList 8 "TODO".toList :=
      ⟨"const my".toList, " = 1;".toList, rfl, rfl, "TODO", by decide, [], rfl, rfl, hahead⟩
    have hbehind := (todoComment_reports_iff "a.ts" 1 _).mp h _ _ hstands
    exact absurd (hbehind 'y' rfl) (by decide)

end SlopLint
