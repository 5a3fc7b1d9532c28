import Mathlib.Data.List.Forall2
import Mathlib.Data.List.TakeWhile
import SlopLint.Proofs.CatchClauses
import SlopLint.Proofs.GuardedScope
import SlopLint.Proofs.JoinedTexts

/-!
# Comments behind lines

A comment without braces and key words that ends a line moves no function and handles no error: the
line starts a function and guards a call as before. What it can change is what a brace that opens
the next line belongs to, since a clause that ended its line ends it no more.
-/

namespace SlopLint.Scope

open Text

/-- The signs by which scopes are told. -/
def landmarks : List String := [
  "function", "=>", "const", "useState", "useEffect", "useCallback", "useMemo", "\x7b", ".catch(",
  "try \x7b", "try\x7b"]

/-- The first character of a text that is no blank. -/
def firstSign (text : List Char) : Option Char :=
  text.find? fun c => !isBlank c

/-- A comment that is of no account to scopes: it holds no landmark and no brace, no landmark reaches
into it, and no clause ends in it. -/
structure Inert (comment : Line) : Prop where
  absent : ∀ landmark ∈ landmarks, has comment landmark = false
  seamless : ∀ landmark ∈ landmarks, Seamless landmark.toList comment
  unbraced : ∀ c ∈ comment, c ≠ '\x7b' ∧ c ≠ '\x7d'
  unending : ¬ CatchClause.EndsIn comment

/-- A line, or the line with a comment behind it. -/
def Trailed (comment line line' : Line) : Prop :=
  line' = line ∨ line' = line ++ comment

/-! ### First signs -/

lemma stripRight_cons {c : Char} (h : isBlank c = false) (rest : List Char) :
    ∃ kept, stripRight (c :: rest) = c :: kept := by
  unfold stripRight stripLeft
  rw [List.reverse_cons, List.dropWhile_append]
  split
  · exact ⟨[], by simp [h]⟩
  · exact ⟨(rest.reverse.dropWhile isBlank).reverse, by simp⟩

lemma head?_strip (text : List Char) : (strip text).head? = firstSign text := by
  induction text with
  | nil => rfl
  | cons c rest ih =>
    cases hblank : isBlank c with
    | true =>
      have hskip : strip (c :: rest) = strip rest := by
        simp [strip, stripLeft, hblank]
      rw [hskip, ih, firstSign, firstSign, List.find?_cons_of_neg (by simp [hblank])]
    | false =>
      have hleft : stripLeft (c :: rest) = c :: rest := by
        simp [stripLeft, hblank]
      obtain ⟨kept, hkept⟩ := stripRight_cons hblank rest
      rw [strip, hleft, hkept, firstSign, List.find?_cons_of_pos (by simp [hblank])]
      rfl

lemma isEmpty_strip (text : List Char) : (strip text).isEmpty = (firstSign text).isNone := by
  rw [← head?_strip]
  cases strip text <;> rfl

/-! ### Functions and guards -/

section Lines

variable {comment line line' : Line}

lemma has_trailed (h : Inert comment) (hline : Trailed comment line line') {landmark : String}
    (hlandmark : landmark ∈ landmarks) : has line' landmark = has line landmark := by
  rcases hline with rfl | rfl
  · rfl
  · have habsent := h.absent landmark hlandmark
    unfold has at habsent ⊢
    rw [occursIn_append line (h.seamless landmark hlandmark), habsent, Bool.or_false]

lemma hasAny_trailed (h : Inert comment) (hline : Trailed comment line line') {words : List String}
    (hwords : ∀ word ∈ words, word ∈ landmarks) : hasAny line' words = hasAny line words := by
  induction words with
  | nil => rfl
  | cons word words ih =>
    obtain ⟨hword, hwords⟩ := List.forall_mem_cons.mp hwords
    have hrest := ih hwords
    unfold hasAny at hrest ⊢
    rw [List.any_cons, List.any_cons, has_trailed h hline hword, hrest]

lemma opensFunction_trailed (h : Inert comment) (hline : Trailed comment line line') :
    opensFunction line' = opensFunction line := by
  unfold opensFunction
  rw [has_trailed h hline (by decide), has_trailed h hline (by decide),
    has_trailed h hline (by decide), hasAny_trailed h hline (by decide)]

lemma hasGuard_trailed (h : Inert comment) (hline : Trailed comment line line') :
    hasGuard line' = hasGuard line :=
  hasAny_trailed h hline (by decide)

lemma firstSign_trailed (h : Inert comment) (hline : Trailed comment line line') :
    firstSign line' = some '\x7b' ↔ firstSign line = some '\x7b' := by
  rcases hline with rfl | rfl
  · rfl
  · have hother : firstSign comment ≠ some '\x7b' := fun hfirst =>
      (h.unbraced _ (List.mem_of_find?_eq_some hfirst)).1 rfl
    unfold firstSign at hother ⊢
    rw [List.find?_append]
    cases line.find? fun c => !isBlank c with
    | none => simpa using hother
    | some c => rfl

/-- In front of a line that starts with a brace no arrow reaches over the seam. -/
lemma seamless_arrow (h : firstSign line = some '\x7b') : Seamless "=>".toList line := by
  intro i hi hpos
  obtain rfl : i = 1 := by
    change i < 2 at hi
    omega
  cases line with
  | nil => rfl
  | cons c rest =>
    by_cases hc : c = '>'
    · subst hc
      cases h
    · simpa [List.isPrefixOf] using Ne.symm hc

lemma isAnchor_trailed (h : Inert comment) {previous previous' : Option Line}
    (habove : Option.Rel (Trailed comment) previous previous') (hline : Trailed comment line line') :
    isAnchor previous' line' = isAnchor previous line := by
  have hseam : ∀ above above', Trailed comment above above' →
      (has (above' ++ line') "=>" && (strip line').head? == some '\x7b') =
        (has (above ++ line) "=>" && (strip line).head? == some '\x7b') := by
    intro above above' htrailed
    rw [head?_strip, head?_strip]
    by_cases hbrace : firstSign line = some '\x7b'
    · have hbrace' := (firstSign_trailed h hline).mpr hbrace
      have harrow := has_trailed h htrailed (by decide : "=>" ∈ landmarks)
      have harrow' := has_trailed h hline (by decide : "=>" ∈ landmarks)
      unfold has at harrow harrow' ⊢
      rw [occursIn_append _ (seamless_arrow hbrace), occursIn_append _ (seamless_arrow hbrace'),
        harrow, harrow', hbrace, hbrace']
    · have hbrace' := mt (firstSign_trailed h hline).mp hbrace
      rw [beq_eq_false_iff_ne.mpr hbrace, beq_eq_false_iff_ne.mpr hbrace', Bool.and_false,
        Bool.and_false]
  unfold isAnchor
  rw [opensFunction_trailed h hline, has_trailed h hline (by decide), has_trailed h hline (by decide)]
  cases habove with
  | none => rfl
  | some htrailed =>
    rw [Option.any_some, Option.any_some, hseam _ _ htrailed]

/-- Braces are counted alike with and without the comment. -/
lemma across_trailed (h : Inert comment) (onAnchor : Bool) (d : Depth)
    (hline : Trailed comment line line') : d.across onAnchor line' = d.across onAnchor line := by
  have hcomment : ∀ (text : List Char) (d : Depth), (∀ c ∈ text, c ≠ '\x7b' ∧ c ≠ '\x7d') →
      d.across onAnchor text = some d := by
    intro text
    induction text with
    | nil => intros; rfl
    | cons c rest ih =>
      intro d htext
      obtain ⟨⟨hopen, hclose⟩, hrest⟩ := List.forall_mem_cons.mp htext
      rw [Depth.across, if_neg (by simpa using hopen), if_neg (by simpa using hclose)]
      exact ih d hrest
  rcases hline with rfl | rfl
  · rfl
  · induction line generalizing d with
    | nil => exact hcomment comment d h.unbraced
    | cons c rest ih =>
      rw [List.cons_append, Depth.across, Depth.across]
      split
      · exact ih _
      · split
        · split
          · rfl
          · exact ih _
        · exact ih _

end Lines

/-! ### Scopes -/

section Files

variable {comment : Line} {lines lines' : List Line}

lemma getElem?_trailed (h : List.Forall₂ (Trailed comment) lines lines') (i : Nat) :
    Option.Rel (Trailed comment) lines[i]? lines'[i]? := by
  induction h generalizing i with
  | nil => exact .none
  | cons hline _ ih =>
    cases i with
    | zero => exact .some hline
    | succ i => exact ih i

lemma findAnchor_trailed (hinert : Inert comment) (h : List.Forall₂ (Trailed comment) lines lines')
    (steps i : Nat) : findAnchor lines' steps i = findAnchor lines steps i := by
  induction steps generalizing i with
  | zero => rfl
  | succ steps ih =>
    have hline := getElem?_trailed h i
    cases hhere : lines[i]? with
    | none =>
      rw [hhere] at hline
      cases hhere' : lines'[i]? with
      | none => rw [findAnchor_succ_none hhere, findAnchor_succ_none hhere']
      | some line' =>
        rw [hhere'] at hline
        cases hline
    | some line =>
      rw [hhere] at hline
      cases hhere' : lines'[i]? with
      | none =>
        rw [hhere'] at hline
        cases hline
      | some line' =>
        rw [hhere'] at hline
        obtain htrailed : Trailed comment line line' := by
          cases hline
          assumption
        have habove : Option.Rel (Trailed comment) (if i = 0 then none else lines[i - 1]?)
            (if i = 0 then none else lines'[i - 1]?) := by
          split
          · exact .none
          · exact getElem?_trailed h (i - 1)
        rw [findAnchor_succ hhere, findAnchor_succ hhere', isAnchor_trailed hinert habove htrailed,
          ih]

lemma closingLine_trailed (hinert : Inert comment)
    (h : List.Forall₂ (Trailed comment) lines lines') (start i : Nat) (d : Depth) :
    closingLine start i d lines' = closingLine start i d lines := by
  induction h generalizing i d with
  | nil => rfl
  | cons hline _ ih =>
    rw [closingLine, closingLine, across_trailed hinert _ d hline]
    split
    · rfl
    · exact ih _ _

lemma functionScope_trailed (hinert : Inert comment)
    (h : List.Forall₂ (Trailed comment) lines lines') (k : Nat) :
    functionScope lines' k = functionScope lines k := by
  rw [functionScope_natCast, functionScope_natCast, findAnchor_trailed hinert h]
  have hbody : ∀ start, closingLine start start {} ((lines'.take (k + lookahead)).drop start) =
      closingLine start start {} ((lines.take (k + lookahead)).drop start) := fun start =>
    closingLine_trailed hinert (List.forall₂_drop start (List.forall₂_take (k + lookahead) h)) _ _ _
  simp only [hbody]

lemma any_hasGuard_trailed (hinert : Inert comment)
    (h : List.Forall₂ (Trailed comment) lines lines') : lines'.any hasGuard = lines.any hasGuard := by
  induction h with
  | nil => rfl
  | cons hline _ ih => rw [List.any_cons, List.any_cons, hasGuard_trailed hinert hline, ih]

lemma guardLines_trailed (hinert : Inert comment)
    (h : List.Forall₂ (Trailed comment) lines lines') (k : Nat) (scope : Option (Nat × Nat)) :
    (guardLines lines' k scope).any hasGuard = (guardLines lines k scope).any hasGuard := by
  cases scope with
  | none => exact any_hasGuard_trailed hinert (List.forall₂_drop _ (List.forall₂_take _ h))
  | some scope => exact any_hasGuard_trailed hinert (List.forall₂_drop _ (List.forall₂_take _ h))

/-- Comments above a call leave it handled, or not, as it was. -/
theorem isCallHandled_trailed (hinert : Inert comment)
    (h : List.Forall₂ (Trailed comment) lines lines') {k : Nat} {line : Line}
    (hline : lines[k]? = some line) (hbelow : lines'.drop k = lines.drop k) :
    isCallHandled lines' k = isCallHandled lines k := by
  have hline' : lines'[k]? = some line := by
    rw [← hline, ← List.head?_drop, ← List.head?_drop, hbelow]
  have hchain : (lines'.take (k + chainLookahead)).drop k =
      (lines.take (k + chainLookahead)).drop k := by
    rw [List.drop_take, List.drop_take, hbelow]
  rw [isCallHandled_natCast hline, isCallHandled_natCast hline', functionScope_trailed hinert h,
    hchain]
  simp only [guardLines_trailed hinert h]

end Files

/-! ### Blocks that handle errors -/

section Blocks

variable {comment line head : Line}

lemma strip_concat {c : Char} (h : isBlank c = false) (text : List Char) :
    ∃ kept, strip (text ++ [c]) = kept ++ [c] := by
  have hleft : ∃ kept, stripLeft (text ++ [c]) = kept ++ [c] := by
    unfold stripLeft
    rw [List.dropWhile_append]
    split
    · exact ⟨[], by simp [h]⟩
    · exact ⟨_, rfl⟩
  obtain ⟨kept, hkept⟩ := hleft
  refine ⟨kept, ?_⟩
  rw [strip, hkept, stripRight, List.reverse_append, List.reverse_singleton, List.singleton_append,
    stripLeft, List.dropWhile_cons_of_neg (by simp [h]), List.reverse_cons, List.reverse_reverse]

/-- The line that the comment ends is visible, and no clause ends it. -/
lemma strip_append_inert (h : Inert comment) (line : Line) :
    (strip (line ++ comment)).isEmpty = false ∧
      catchClause.occursIn (strip (line ++ comment)) = false := by
  obtain ⟨c, hc, hother⟩ : ∃ c ∈ comment.getLast?, ¬ (c = 'h' ∨ c = ')' ∨ isBlank c = true) := by
    simpa only [CatchClause.EndsIn, not_forall, exists_prop] using h.unending
  have hsign : isBlank c = false := Bool.eq_false_iff.mpr fun hblank => hother (.inr (.inr hblank))
  obtain ⟨front, rfl⟩ := List.getLast?_eq_some_iff.mp hc
  obtain ⟨kept, hkept⟩ := strip_concat hsign (line ++ front)
  rw [← List.append_assoc, hkept]
  refine ⟨by simp, Bool.eq_false_iff.mpr fun hoccurs => hother ?_⟩
  exact CatchClause.endsIn_of_occursIn hoccurs c List.getLast?_concat

/-- The lines above do not matter to a brace behind something on its line. -/
lemma opensCatch_of_visible (h : (firstSign head).isSome) (above above' : List Line) :
    opensCatch above head = opensCatch above' head := by
  unfold opensCatch
  rw [isEmpty_strip, Option.isNone_eq_false_iff.mpr h, Bool.not_false, if_pos rfl, if_pos rfl]

/-- Blanks in front of a brace do not matter. -/
lemma opensCatch_of_blank (h : firstSign head = none) (above : List Line) :
    opensCatch above head = opensCatch above [] := by
  have hblank : ∀ c ∈ head, isBlank c = true := by
    simpa [firstSign] using h
  have hstrip : stripRight head = [] := by
    rw [stripRight, stripLeft, List.dropWhile_eq_nil_iff.mpr (by simpa using hblank)]
    rfl
  have hchain : has head ".catch(" = false := by
    rw [← Bool.not_eq_true]
    intro hhas
    have hdot : '.' ∈ head := (occursIn_iff.mp hhas).subset (by decide)
    exact absurd (hblank '.' hdot) (by decide)
  have hnone : stripRight [] = [] ∧ has [] ".catch(" = false ∧ firstSign [] = none := by decide
  unfold opensCatch
  rw [hstrip, hchain, isEmpty_strip, isEmpty_strip, h, hnone.1, hnone.2.1, hnone.2.2]

/-- A brace that stands alone below the comment opens nothing that handles errors. -/
lemma opensCatch_inert (h : Inert comment) (line : Line) (above : List Line) :
    opensCatch ((line ++ comment) :: above) [] = false := by
  have hnone : stripRight [] = [] ∧ has [] ".catch(" = false ∧ (strip []).isEmpty = true := by decide
  obtain ⟨hvisible, hends⟩ := strip_append_inert h line
  have hfirst : (((line ++ comment) :: above).take clauseLookback).find?
      (fun line => !(strip line).isEmpty) = some (line ++ comment) := by
    rw [clauseLookback, List.take_succ_cons, List.find?_cons_of_pos (by simp [hvisible])]
  unfold opensCatch
  rw [hnone.1, hnone.2.1, hnone.2.2, CatchClause.not_occursIn_nil, hfirst, Bool.or_false,
    if_neg Bool.false_ne_true, Bool.not_true, if_neg Bool.false_ne_true]
  exact hends

/-- The comment takes clauses away, and it adds none. -/
lemma opensCatch_of_inert (h : Inert comment) {above : List Line}
    (hopens : opensCatch ((line ++ comment) :: above) head = true) :
    opensCatch (line :: above) head = true := by
  cases hsign : firstSign head with
  | some c =>
    have hvisible : (firstSign head).isSome := Option.isSome_of_eq_some hsign
    rw [opensCatch_of_visible hvisible _ ((line ++ comment) :: above)]
    exact hopens
  | none =>
    rw [opensCatch_of_blank hsign, opensCatch_inert h] at hopens
    cases hopens

/-- It takes none away from a brace with something in front of it, nor where there is none. -/
lemma opensCatch_inert_eq (h : Inert comment) {above : List Line}
    (hopens : firstSign head = none → opensCatch (line :: above) [] = false) :
    opensCatch ((line ++ comment) :: above) head = opensCatch (line :: above) head := by
  cases hsign : firstSign head with
  | some c => exact opensCatch_of_visible (Option.isSome_of_eq_some hsign) _ _
  | none =>
    rw [opensCatch_of_blank hsign, opensCatch_of_blank hsign, opensCatch_inert h, hopens hsign]

end Blocks

/-! ### The way back -/

/-- One state of the way back is behind another if it is as deep and has passed no block that handles
errors where the other has passed none. -/
def Retreat.Behind (b' b : Retreat) : Prop :=
  b'.depth = b.depth ∧ (b'.seenCatch = true → b.seenCatch = true)

/-- A brace keeps the order, if it opens a block that handles errors only where it does in the other
state. -/
lemma opened_behind {b b' d : Retreat} {opens opens' : Bool} (hopens : opens' = true → opens = true)
    (hb : b'.Behind b) (h : b.opened opens = some d) :
    ∃ d', b'.opened opens' = some d' ∧ d'.Behind d := by
  rcases b with ⟨depth, seen⟩
  rcases b' with ⟨depth', seen'⟩
  obtain ⟨rfl, hseen⟩ : depth' = depth ∧ (seen' = true → seen = true) := hb
  unfold Retreat.opened at h ⊢
  dsimp only at h ⊢
  cases depth' with
  | zero =>
    dsimp only at h ⊢
    split at h
    · cases h
    · obtain rfl := Option.some.inj h
      rw [if_neg (mt hopens ‹_›)]
      exact ⟨_, rfl, rfl, hseen⟩
  | succ depth =>
    have hpassed : (seen' || opens') = true → (seen || opens) = true := by
      rw [Bool.or_eq_true, Bool.or_eq_true]
      exact Or.imp hseen hopens
    dsimp only at h ⊢
    split at h
    · cases h
    · rename_i hstays
      obtain rfl := Option.some.inj h
      rw [Bool.and_eq_true] at hstays
      rw [if_neg]
      · exact ⟨_, rfl, rfl, hpassed⟩
      · rw [Bool.and_eq_true]
        exact fun hstops => hstays ⟨hstops.1, hpassed hstops.2⟩

/-- With fewer blocks that handle errors the way back stays behind. -/
lemma across_behind {above above' : List Line} {text : List Char} {b b' d : Retreat}
    (hopens : ∀ rest, '\x7b' :: rest <:+ text → opensCatch above' rest.reverse = true →
      opensCatch above rest.reverse = true)
    (hb : b'.Behind b) (hacross : b.across above text = some d) :
    ∃ d', b'.across above' text = some d' ∧ d'.Behind d := by
  induction text generalizing b b' with
  | nil =>
    cases hacross
    exact ⟨b', rfl, hb⟩
  | cons c rest ih =>
    have hrest : ∀ tail, '\x7b' :: tail <:+ rest → opensCatch above' tail.reverse = true →
        opensCatch above tail.reverse = true := fun tail htail =>
      hopens tail (htail.trans (List.suffix_cons c rest))
    by_cases hopen : c = '\x7b'
    · subst hopen
      rw [across_opened] at hacross ⊢
      obtain ⟨e, he, hacross⟩ := Option.bind_eq_some_iff.mp hacross
      obtain ⟨e', he', hbehind⟩ := opened_behind (hopens rest (List.suffix_refl _)) hb he
      rw [he', Option.bind_some]
      exact ih hrest hbehind hacross
    · rw [Retreat.across] at hacross ⊢
      split at hacross
      · have hdeeper : Retreat.Behind ⟨b'.depth + 1, b'.seenCatch⟩ ⟨b.depth + 1, b.seenCatch⟩ :=
          ⟨congrArg (· + 1) hb.1, hb.2⟩
        rw [if_pos ‹_›]
        exact ih hrest hdeeper hacross
      · rw [if_neg (by simpa using hopen)] at hacross
        rw [if_neg ‹_›, if_neg (by simpa using hopen)]
        exact ih hrest hb hacross

/-- So a place that is not guarded stays unguarded. -/
lemma guardedFrom_behind {b b' : Retreat} (hb : b'.Behind b) {above : List Line}
    (h : guardedFrom b above = false) : guardedFrom b' above = false := by
  induction above generalizing b b' with
  | nil => rfl
  | cons line above ih =>
    unfold guardedFrom at h ⊢
    cases hacross : b.across above line.reverse with
    | none =>
      rw [hacross] at h
      cases h
    | some d =>
      rw [hacross] at h
      obtain ⟨d', hacross', hbehind⟩ := across_behind (fun _ _ hopens => hopens) hb hacross
      rw [hacross']
      exact ih hbehind h

lemma across_append_unbraced {above : List Line} {comment : List Char}
    (h : ∀ c ∈ comment, c ≠ '\x7b' ∧ c ≠ '\x7d') (b : Retreat) (rest : List Char) :
    b.across above (comment ++ rest) = b.across above rest := by
  induction comment with
  | nil => rfl
  | cons c comment ih =>
    obtain ⟨⟨hopen, hclose⟩, hcomment⟩ := List.forall_mem_cons.mp h
    rw [List.cons_append, Retreat.across, if_neg (by simpa using hclose),
      if_neg (by simpa using hopen)]
    exact ih hcomment

/-- The line with the comment is passed as the line is. -/
lemma guardedFrom_inert {comment : Line} (h : Inert comment) (b : Retreat) (line : Line)
    (above : List Line) :
    guardedFrom b ((line ++ comment) :: above) = guardedFrom b (line :: above) := by
  rw [guardedFrom, guardedFrom, List.reverse_append,
    across_append_unbraced (fun c hc => h.unbraced c (List.mem_reverse.mp hc))]

/-- From a line whose braces handle no more errors, below lines that are passed alike, the way back
is guarded only if it was. -/
lemma guardedFrom_of_opens {head : Line} {above above' : List Line}
    (hopens : ∀ rest, '\x7b' :: rest <:+ head.reverse → opensCatch above' rest.reverse = true →
      opensCatch above rest.reverse = true)
    (habove : ∀ b, guardedFrom b above' = guardedFrom b above)
    (hfree : guardedFrom {} (head :: above) = false) : guardedFrom {} (head :: above') = false := by
  unfold guardedFrom at hfree ⊢
  cases hacross : Retreat.across above {} head.reverse with
  | none =>
    rw [hacross] at hfree
    cases hfree
  | some d =>
    rw [hacross] at hfree
    obtain ⟨d', hacross', hbehind⟩ := across_behind hopens ⟨rfl, id⟩ hacross
    rw [hacross']
    dsimp only at hfree ⊢
    rw [habove]
    exact guardedFrom_behind hbehind hfree

/-- From the line below the comment the way back is guarded only if it was. -/
lemma guardedFrom_trailed {comment : Line} (h : Inert comment) {head line : Line}
    {above : List Line} (hfree : guardedFrom {} (head :: line :: above) = false) :
    guardedFrom {} (head :: (line ++ comment) :: above) = false :=
  guardedFrom_of_opens (fun _ _ hopens => opensCatch_of_inert h hopens)
    (fun b => guardedFrom_inert h b line above) hfree

/-- It is guarded just as it was, unless its line starts with a brace that a clause belongs to. -/
lemma guardedFrom_trailed_eq {comment : Line} (h : Inert comment) {head line : Line}
    {above : List Line}
    (hlone : firstSign head = some '\x7b' → opensCatch (line :: above) [] = false) :
    guardedFrom {} (head :: (line ++ comment) :: above) = guardedFrom {} (head :: line :: above) := by
  have hopens : ∀ rest, '\x7b' :: rest <:+ head.reverse →
      opensCatch ((line ++ comment) :: above) rest.reverse =
        opensCatch (line :: above) rest.reverse := by
    intro rest hrest
    apply opensCatch_inert_eq h
    intro hblank
    apply hlone
    obtain ⟨behind, hhead⟩ := hrest
    have hstarts : head = rest.reverse ++ '\x7b' :: behind.reverse := by
      rw [← List.reverse_reverse head, ← hhead, List.reverse_append, List.reverse_cons,
        List.append_assoc, List.singleton_append]
    unfold firstSign at hblank ⊢
    rw [hstarts, List.find?_append, hblank]
    rfl
  cases hguarded : guardedFrom {} (head :: line :: above) with
  | false => exact guardedFrom_trailed h hguarded
  | true =>
    rw [← Bool.not_eq_false] at hguarded ⊢
    refine mt (guardedFrom_of_opens ?_ ?_) hguarded
    · intro rest hrest hcatch
      rw [hopens rest hrest]
      exact hcatch
    · exact fun b => (guardedFrom_inert h b line above).symm

end SlopLint.Scope
