import Mathlib.Data.List.TakeWhile
import Mathlib.Data.Nat.Find
import Mathlib.Tactic.Lemma
import SlopLint.Proofs.GreedyRuns
import SlopLint.Proofs.WordForms

/-!
# Parameters of any type

The pattern for parameters reads as much as it can between an opening parenthesis and a parameter
of type `any` that ends a list. So on a line it is found once at most: from the first parenthesis to
the end of the last such parameter.
-/

namespace SlopLint

open Text
open Rule.Builtin (functionParamAnyType)

namespace Form

/-- A parameter of type `any` that is the last of a list. -/
def anyParameter : Form where
  words := [":"]
  rest tail _ := ∃ gap gap', tail = gap ++ "any".toList ++ gap' ++ [')'] ∧ IsGap gap ∧ IsGap gap'

/-- The last place of a line at which a text of the form stands. -/
structure StandsLastAt (form : Form) (line : Line) (start : Nat) (text : List Char) : Prop where
  here : form.StandsAt line start text
  last : ∀ start' text', form.StandsAt line start' text' → start' ≤ start

lemma StandsAt.start_le {form : Form} {line : Line} {start : Nat} {text : List Char}
    (h : form.StandsAt line start text) : start ≤ line.length := by
  obtain ⟨before, after, rfl, rfl, -⟩ := h
  rw [List.append_assoc, List.length_append]
  exact Nat.le_add_right _ _

lemma StandsAt.exists_last {form : Form} {line : Line} {start : Nat} {text : List Char}
    (h : form.StandsAt line start text) :
    ∃ last text', form.StandsLastAt line last text' ∧ start ≤ last := by
  classical
  let stands (n : Nat) : Prop := ∃ found, form.StandsAt line n found
  have hhere : stands start := ⟨text, h⟩
  obtain ⟨text', hlast⟩ : stands (Nat.findGreatest stands line.length) :=
    Nat.findGreatest_spec h.start_le hhere
  refine ⟨_, text', ⟨hlast, ?_⟩, Nat.le_findGreatest h.start_le hhere⟩
  intro start' text'' h'
  have hthere : stands start' := ⟨text'', h'⟩
  exact Nat.le_findGreatest h'.start_le hthere

/-- What stands behind the first place of a character leaves a text between the two. -/
lemma StandsAt.behind {form : Form} {line : Line} {start : Nat} {found : List Char} {c : Char}
    (h : form.StandsAt line start found) (hlt : line.idxOf c < start) :
    ∃ front skipped after, line = front ++ c :: (skipped ++ (found ++ after)) ∧ c ∉ front ∧
      start = front.length + 1 + skipped.length ∧ form.Holds found after := by
  have hmem : c ∈ line := List.idxOf_lt_length_iff.mp (Nat.lt_of_lt_of_le hlt h.start_le)
  obtain ⟨before, after, hline, rfl, hfound⟩ := h
  obtain ⟨front, rest, hsplit, hfirst⟩ := List.eq_append_cons_of_mem hmem
  have hlength : line.idxOf c = front.length := by
    rw [hsplit, List.idxOf_append_of_notMem hfirst, List.idxOf_cons_self, Nat.add_zero]
  rw [List.append_assoc] at hline
  rcases List.append_eq_append_iff.mp (hsplit.symm.trans hline) with
    ⟨part, rfl, hrest⟩ | ⟨part, rfl, -⟩
  · cases part with
    | nil =>
      rw [List.append_nil] at hlt
      omega
    | cons d skipped =>
      obtain ⟨rfl, rfl⟩ := List.cons.inj hrest
      refine ⟨front, skipped, after, hsplit, hfirst, ?_, hfound⟩
      rw [List.length_append, List.length_cons]
      omega
  · rw [List.length_append] at hlength
    omega

open Pattern (Node)
open Pattern.Plain
open Scope (plainMode)

/-- As much as there is on a line. -/
def anything : Node := .loop .greedy 0 none (.char plainMode .notNewline)

/-- The parameter, and blanks in front of it. -/
def anyParameterNode : Node :=
  .sequence (blanks :: mark ':' :: blanks :: (plainMode.word "any".toList ++ [blanks, mark ')']))

/-- The list up to the parameter. -/
def anyParametersNode : Node :=
  .sequence (mark '(' :: blanks :: anything :: blanks :: mark ':' :: blanks ::
    (plainMode.word "any".toList ++ [blanks, mark ')']))

lemma node_functionParamAnyType : functionParamAnyType.pattern.node = anyParametersNode := by
  decide +kernel

section Takes

variable {before text after : List Char}

lemma takes_anyParameterNode :
    anyParameterNode.takes before text after ↔
      ∃ gap found, text = gap ++ found ∧ IsGap gap ∧ anyParameter.Holds found after := by
  unfold anyParameterNode
  constructor
  · intro h
    obtain ⟨gap₀, _, rfl, hgap₀, hcolon⟩ := takes_blanks_cons.mp h
    obtain ⟨_, rfl, hrest⟩ := takes_mark_cons.mp hcolon
    obtain ⟨gap, _, rfl, hgap, hany⟩ := takes_blanks_cons.mp hrest
    obtain ⟨_, rfl, hclose⟩ := takes_word_append.mp hany
    obtain ⟨gap', _, rfl, hgap', hend⟩ := takes_blanks_cons.mp hclose
    obtain ⟨_, rfl, rfl⟩ := takes_mark_cons.mp hend
    exact ⟨gap₀, _, rfl, hgap₀, ":", List.mem_singleton.mpr rfl, _, rfl, gap, gap', by simp,
      hgap, hgap'⟩
  · rintro ⟨gap₀, _, rfl, hgap₀, _, hmem, _, rfl, gap, gap', rfl, hgap, hgap'⟩
    obtain rfl := List.mem_singleton.mp hmem
    rw [List.append_assoc, List.append_assoc]
    refine takes_blanks_cons.mpr ⟨gap₀, _, rfl, hgap₀, takes_mark_cons.mpr ⟨_, rfl, ?_⟩⟩
    refine takes_blanks_cons.mpr ⟨gap, _, rfl, hgap, takes_word_append.mpr ⟨_, rfl, ?_⟩⟩
    refine takes_blanks_cons.mpr ⟨gap', _, rfl, hgap', takes_mark_cons.mpr ⟨[], rfl, rfl⟩⟩

/-- What is taken starts with a parenthesis and ends with a parameter. -/
lemma of_takes_anyParametersNode (h : anyParametersNode.takes before text after) :
    ∃ skipped found, text = '(' :: (skipped ++ found) ∧ anyParameter.Holds found after := by
  obtain ⟨_, rfl, hrest⟩ := takes_mark_cons.mp h
  obtain ⟨gap, _, rfl, -, hrest⟩ := takes_blanks_cons.mp hrest
  obtain ⟨run, _, rfl, -, hrest⟩ := Pattern.takes_star_cons.mp hrest
  obtain ⟨gap', found, rfl, -, hfound⟩ := takes_anyParameterNode.mp hrest
  exact ⟨gap ++ run ++ gap', found, by simp, hfound⟩

end Takes

/-! ### The match on a line -/

section Line

variable {before skipped found after : List Char}

/-- A parameter has one extent. -/
lemma eq_of_anyParameter {found' after' : List Char} (h : anyParameter.Holds found after)
    (h' : anyParameter.Holds found' after') (heq : found ++ after = found' ++ after') :
    after = after' := by
  obtain ⟨_, hmem, _, rfl, gap₁, gap₂, rfl, hgap₁, hgap₂⟩ := h
  obtain ⟨_, hmem', _, rfl, gap₁', gap₂', rfl, hgap₁', hgap₂'⟩ := h'
  obtain rfl := List.mem_singleton.mp hmem
  obtain rfl := List.mem_singleton.mp hmem'
  have hrest := List.append_cancel_left
    ((List.append_assoc _ _ _).symm.trans (heq.trans (List.append_assoc _ _ _)))
  exact (any_unique ')' (by decide) hgap₁ hgap₂ hgap₁' hgap₂' hrest).2.2

/-- A parameter does not start with a blank. -/
lemma isBlank_of_anyParameter (h : anyParameter.Holds found after) :
    ∀ c ∈ (found ++ after).head?, isBlank c = false := by
  obtain ⟨_, hmem, tail, rfl, -⟩ := h
  obtain rfl := List.mem_singleton.mp hmem
  intro c hc
  obtain rfl := Option.some.inj hc
  decide

/-- What its node takes where it stands ends with it. -/
lemma eq_of_takes_anyParameterNode {text after' : List Char}
    (hfound : anyParameter.Holds found after) (heq : found ++ after = text ++ after')
    (h : anyParameterNode.takes before text after') : after' = after := by
  obtain ⟨gap, found', rfl, hgap, hfound'⟩ := takes_anyParameterNode.mp h
  rw [List.append_assoc] at heq
  have hnogap : IsGap [] := nofun
  obtain ⟨rfl, hrest⟩ := gap_unique hnogap hgap (isBlank_of_anyParameter hfound)
    (isBlank_of_anyParameter hfound') heq
  exact (eq_of_anyParameter hfound hfound' hrest).symm

/-- No parameter stands behind the one that follows so many characters. -/
def NoneBehind (skipped rest : List Char) : Prop :=
  ∀ skipped' found after, skipped ++ rest = skipped' ++ (found ++ after) →
    anyParameter.Holds found after → skipped'.length ≤ skipped.length

/-- The place behind the last parameter of a text. -/
lemma exists_end (before : List Char) (hfound : anyParameter.Holds found after) :
    ∃ t, (anyParameterNode.ends (.between before (found ++ after) [])).head? = some t ∧
      t.left = after.length := by
  have hregular : anyParameterNode.isRegular = true := by decide
  have hends : anyParameterNode.ends (.between before (found ++ after) []) ≠ [] := by
    rw [ne_eq, Pattern.ends_eq_nil_iff hregular]
    intro hnone
    exact hnone found after rfl (takes_anyParameterNode.mpr ⟨[], found, rfl, nofun, hfound⟩)
  obtain ⟨t, others, hcons⟩ := List.exists_cons_of_ne_nil hends
  refine ⟨t, by rw [hcons]; rfl, ?_⟩
  obtain ⟨text, after', groups, heq, rfl, htakes⟩ :=
    (Pattern.ends_realize anyParameterNode hregular).sound _ _ _ t (hcons ▸ List.mem_cons_self)
  rw [eq_of_takes_anyParameterNode hfound heq htakes]
  rfl

/-- What is skipped reaches up to the last parameter. -/
lemma head?_anything (hnewline : '\n' ∉ skipped) (hfound : anyParameter.Holds found after)
    (hlast : NoneBehind skipped (found ++ after)) :
    ((anything.ends (.between before (skipped ++ (found ++ after)) [])).flatMap
        anyParameterNode.ends).head? =
      (anyParameterNode.ends (.between (skipped.reverse ++ before) (found ++ after) [])).head? := by
  have hregular : anyParameterNode.isRegular = true := by decide
  have hrun : ∀ c ∈ skipped, Pattern.CharTest.notNewline.passes plainMode c = true := by
    intro c hc
    have hne : c ≠ '\n' := fun heq => hnewline (heq ▸ hc)
    exact bne_iff_ne.mpr hne
  refine Pattern.head?_star hrun ?_ ?_
  · obtain ⟨t, ht, -⟩ := exists_end (skipped.reverse ++ before) hfound
    intro hnil
    rw [hnil] at ht
    cases ht
  · intro c more rest hrest _
    rw [Pattern.ends_eq_nil_iff hregular]
    rintro text after' rfl htakes
    obtain ⟨gap, found', rfl, -, hfound'⟩ := takes_anyParameterNode.mp htakes
    have hle := hlast (skipped ++ (c :: more) ++ gap) found' after' (by rw [hrest]; simp) hfound'
    rw [List.append_assoc, List.length_append, List.cons_append, List.length_cons] at hle
    omega

/-- In front of what starts with no blank, the blanks that a text starts with are cut off in one
way. -/
lemma exists_gap (skipped : List Char) {rest : List Char}
    (hrest : ∀ c ∈ rest.head?, isBlank c = false) :
    ∃ gap run, skipped = gap ++ run ∧ IsGap gap ∧
      ∀ c ∈ (run ++ rest).head?, isBlank c = false := by
  refine ⟨skipped.takeWhile isBlank, skipped.dropWhile isBlank,
    List.takeWhile_append_dropWhile.symm, fun c hc => List.mem_takeWhile_imp hc, ?_⟩
  have hnot := List.head?_dropWhile_not isBlank skipped
  cases hrun : skipped.dropWhile isBlank with
  | nil => exact hrest
  | cons d run =>
    intro c hc
    rw [hrun] at hnot
    obtain rfl := Option.some.inj hc
    exact hnot

/-- Behind a parenthesis the blanks are passed first, and then all up to the last parameter. -/
lemma exists_end_of_parenthesis (before : List Char) (hnewline : '\n' ∉ skipped)
    (hfound : anyParameter.Holds found after) (hlast : NoneBehind skipped (found ++ after)) :
    ∃ t, (anyParametersNode.ends
        (.between before ('(' :: (skipped ++ (found ++ after))) [])).head? = some t ∧
      t.left = after.length := by
  obtain ⟨gap, run, rfl, hgap, hrun⟩ := exists_gap skipped (isBlank_of_anyParameter hfound)
  have hmark : (mark '(').ends (.between before ('(' :: (gap ++ run ++ (found ++ after))) []) =
      [.between ('(' :: before) (gap ++ run ++ (found ++ after)) []] := rfl
  obtain ⟨t, ht, hleft⟩ := exists_end ((gap ++ run).reverse ++ '(' :: before) hfound
  refine ⟨t, ?_, hleft⟩
  have hbehind : ((Node.sequence (anything :: blanks :: mark ':' :: blanks ::
      (plainMode.word "any".toList ++ [blanks, mark ')']))).ends
        (.between (gap.reverse ++ '(' :: before) (run ++ (found ++ after)) [])).head? = some t := by
    rw [Pattern.ends_sequence_cons]
    refine (head?_anything ?_ hfound ?_).trans ?_
    · exact fun hmem => hnewline (List.mem_append_right gap hmem)
    · intro skipped' found' after' heq hfound'
      have hle := hlast (gap ++ skipped') found' after' (by simp [heq]) hfound'
      rw [List.length_append, List.length_append] at hle
      omega
    · rwa [← List.append_assoc, ← List.reverse_append]
  -- with more blanks the first repetition would read what is none
  unfold anyParametersNode
  rw [Pattern.ends_sequence_cons, hmark, List.flatMap_singleton, Pattern.ends_sequence_cons,
    List.append_assoc, ← hbehind]
  refine Pattern.head?_star ?_ ?_ ?_
  · exact fun c hc => passes_blank.mpr (hgap c hc)
  · intro hnil
    rw [hnil] at hbehind
    cases hbehind
  · intro c more rest hrest hmore
    have hblank := passes_blank.mp (hmore c List.mem_cons_self)
    rw [hrun c (by rw [hrest]; rfl)] at hblank
    cases hblank

/-- From a parenthesis on, the pattern takes all up to the end of the last parameter. -/
lemma taken?_anyParameters (before : List Char) (hnewline : '\n' ∉ skipped)
    (hfound : anyParameter.Holds found after) (hlast : NoneBehind skipped (found ++ after)) :
    functionParamAnyType.pattern.taken? before ('(' :: (skipped ++ (found ++ after))) =
      some ('(' :: (skipped ++ found)) := by
  obtain ⟨t, ht, hleft⟩ := exists_end_of_parenthesis before.reverse hnewline hfound hlast
  rw [← Pattern.matchAt_false, ← node_functionParamAnyType] at ht
  refine Pattern.taken?_eq_some_iff.mpr ⟨List.cons_ne_nil _ _, after, t, by simp,
    Pattern.matchAt_true_of_left_ne ht ?_, hleft⟩
  have hlength : (Pattern.Cursor.between before.reverse ('(' :: (skipped ++ (found ++ after)))
    []).left = ('(' :: (skipped ++ (found ++ after))).length := rfl
  rw [hleft, hlength, List.length_cons, List.length_append, List.length_append]
  omega

end Line

end Form

/-! ### The matches of the rule -/

section Matches

variable {read unread line : List Char}

/-- What the rule takes starts with a parenthesis, and a parameter ends it. -/
lemma of_taken?_anyParameters {text : List Char}
    (h : functionParamAnyType.pattern.taken? read unread = some text) :
    ∃ skipped found after, unread = '(' :: (skipped ++ (found ++ after)) ∧
      Form.anyParameter.Holds found after := by
  have hregular : functionParamAnyType.pattern.node.isRegular = true := by
    rw [Form.node_functionParamAnyType]
    decide
  obtain ⟨-, after, rfl, htakes⟩ := Pattern.takes_of_taken? hregular h
  rw [Form.node_functionParamAnyType] at htakes
  obtain ⟨skipped, found, rfl, hfound⟩ := Form.of_takes_anyParametersNode htakes
  exact ⟨skipped, found, after, by simp, hfound⟩

/-- A text that has no parameter behind a parenthesis is passed over. -/
lemma passesOver_of_no_parameter {front after : List Char}
    (hnone : ∀ passed skipped found rest,
      front ++ after = passed ++ '(' :: (skipped ++ (found ++ rest)) →
      passed.length < front.length → ¬ Form.anyParameter.Holds found rest) :
    functionParamAnyType.pattern.PassesOver read front after := by
  rintro passed rest rfl hfull
  by_contra htaken
  obtain ⟨text, htext⟩ := Option.ne_none_iff_exists'.mp htaken
  obtain ⟨skipped, found, rest', hrest, hfound⟩ := of_taken?_anyParameters htext
  refine hnone passed skipped found rest' (by rw [List.append_assoc, hrest]) ?_ hfound
  have hpos := List.length_pos_iff.mpr hfull
  rw [List.length_append]
  omega

lemma idxOf_le_length_of_append {front rest : List Char} {c : Char}
    (h : line = front ++ c :: rest) : line.idxOf c ≤ front.length := by
  rw [h, List.idxOf_append]
  split
  · exact List.idxOf_le_length
  · rw [List.idxOf_cons_self, Nat.zero_add]

/-- Where nothing is found behind the first parenthesis, nothing is found at all. -/
lemma scans_nil (hnone : ∀ start text, Form.anyParameter.StandsAt line start text →
    start ≤ line.idxOf '(') : functionParamAnyType.pattern.Scans [] line [] := by
  refine .done (passesOver_of_no_parameter ?_)
  rintro passed skipped found rest hline - hfound
  rw [List.append_nil] at hline
  have hle := idxOf_le_length_of_append hline
  have hstart := hnone (passed ++ '(' :: skipped).length found
    ⟨passed ++ '(' :: skipped, rest, by rw [hline]; simp, rfl, hfound⟩
  rw [List.length_append, List.length_cons] at hstart
  omega

/-- Else there is one match, from the first parenthesis to the end of the last parameter. -/
lemma scans_one {front skipped found after : List Char} (hnewline : '\n' ∉ line)
    (hline : line = front ++ '(' :: (skipped ++ (found ++ after))) (hfirst : '(' ∉ front)
    (hfound : Form.anyParameter.Holds found after)
    (hlast : ∀ start text, Form.anyParameter.StandsAt line start text →
      start ≤ front.length + 1 + skipped.length) :
    functionParamAnyType.pattern.Scans [] line [⟨front.length, '(' :: (skipped ++ found)⟩] := by
  have hbound : ∀ passed found' rest, line = passed ++ (found' ++ rest) →
      Form.anyParameter.Holds found' rest → passed.length ≤ front.length + 1 + skipped.length :=
    fun passed found' rest heq hfound' =>
      hlast _ found' ⟨passed, rest, by rw [heq, List.append_assoc], rfl, hfound'⟩
  have hnone : Form.NoneBehind skipped (found ++ after) := by
    intro skipped' found' rest heq hfound'
    have hle := hbound (front ++ '(' :: skipped') found' rest (by rw [hline, heq]; simp) hfound'
    rw [List.length_append, List.length_cons] at hle
    omega
  have htaken := Form.taken?_anyParameters front
    (fun hmem => hnewline (by rw [hline]; simp [hmem])) hfound hnone
  refine .next front ('(' :: (skipped ++ found)) after (by rw [hline]; simp) ?_ ?_ (.done ?_)
  · refine passesOver_of_no_parameter ?_
    intro passed skipped' found' rest heq hlt _
    -- the first parenthesis does not stand in front of itself
    have hmem : '(' ∈ front := by
      have hget := congrArg (·[passed.length]?) heq
      rw [List.getElem?_append_left hlt, List.getElem?_append_right (Nat.le_refl _),
        Nat.sub_self, List.getElem?_cons_zero] at hget
      exact List.mem_of_getElem? hget
    exact hfirst hmem
  · simpa using htaken
  · refine passesOver_of_no_parameter ?_
    intro passed skipped' found' rest heq _ hfound'
    rw [List.append_nil] at heq
    have hle := hbound (front ++ '(' :: (skipped ++ found) ++ (passed ++ '(' :: skipped')) found'
      rest (by rw [hline, heq]; simp) hfound'
    simp only [List.length_append, List.length_cons] at hle
    omega

end Matches

/-- On a line without a line break the rule about parameters has no match when no last parameter of
type `any` stands behind the first parenthesis. Else it has one match, which reaches from that
parenthesis to the end of the last such parameter. -/
theorem parameters_found_once (file : String) (number : Int) (line : Line)
    (hnewline : '\n' ∉ line) :
    ((∀ start text, Form.anyParameter.StandsAt line start text → start ≤ line.idxOf '(') →
      Scan.ruleMatches file number line functionParamAnyType = []) ∧
    ((∃ start text, Form.anyParameter.StandsAt line start text ∧ line.idxOf '(' < start) →
      ∃ start text, Form.anyParameter.StandsLastAt line start text ∧ line.idxOf '(' < start ∧
        Scan.ruleMatches file number line functionParamAnyType =
          [⟨file, number, line.idxOf '(' + 1,
            String.ofList (Text.range line (line.idxOf '(') (start + text.length)),
            functionParamAnyType.id⟩]) := by
  unfold Scan.ruleMatches
  constructor
  · intro hnone
    rw [(scans_nil hnone).occurrences_eq, List.map_nil]
  · rintro ⟨start', text', hstands', hbehind'⟩
    obtain ⟨start, found, hlast, hle⟩ := hstands'.exists_last
    have hbehind := Nat.lt_of_lt_of_le hbehind' hle
    refine ⟨start, found, hlast, hbehind, ?_⟩
    obtain ⟨front, skipped, after, hline, hfirst, rfl, hfound⟩ := hlast.here.behind hbehind
    have hopening : line.idxOf '(' = front.length := by
      rw [hline, List.idxOf_append_of_notMem hfirst, List.idxOf_cons_self, Nat.add_zero]
    have htext : Text.range line front.length
        ((front.length + 1 + skipped.length + found.length : Nat) : Int) =
          '(' :: (skipped ++ found) := by
      have hparts : line = (front ++ '(' :: (skipped ++ found)) ++ after := by
        rw [hline]
        simp
      rw [Scope.range_natCast, hparts, List.take_left' (by simp; omega), List.drop_left]
    rw [(scans_one hnewline hline hfirst hfound hlast.last).occurrences_eq, List.map_singleton,
      hopening, ← htext]
    rfl

/-- A list inside of another ends with a parameter of type `any`; nothing opens in front of one. -/
theorem parameters_found_once_nested :
    '\n' ∉ "f(a: any, (b : any ) => c)".toList ∧
    (∃ start text,
      Form.anyParameter.StandsLastAt "f(a: any, (b : any ) => c)".toList start text ∧ 1 < start ∧
      Scan.ruleMatches "a.ts" 1 "f(a: any, (b : any ) => c)".toList functionParamAnyType =
        [⟨"a.ts", 1, 2, String.ofList
          (Text.range "f(a: any, (b : any ) => c)".toList 1 (start + text.length)),
          functionParamAnyType.id⟩]) ∧
    Scan.ruleMatches "a.ts" 1 "b: any)".toList functionParamAnyType = [] := by
  have hnewline : '\n' ∉ "f(a: any, (b : any ) => c)".toList := by decide
  refine ⟨hnewline, ?_, ?_⟩
  · refine (parameters_found_once "a.ts" 1 _ hnewline).2
      ⟨_, ": any )".toList, ⟨"f(a: any, (b ".toList, " => c)".toList, rfl, rfl, ?_⟩, by decide⟩
    exact ⟨":", List.mem_singleton.mpr rfl, _, rfl, [' '], [' '], rfl,
      List.forall_mem_singleton.mpr (by decide), List.forall_mem_singleton.mpr (by decide)⟩
  · exact (parameters_found_once "a.ts" 1 _ (by decide)).1 fun _ _ hstands => hstands.start_le

end SlopLint
