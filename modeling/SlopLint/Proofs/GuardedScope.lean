import SlopLint.Proofs.BraceMatching
import SlopLint.Proofs.ScopeWindow

/-!
# Guarded places

Whether a place is guarded is found out on the way back from it, with a count of the closing braces
that wait for their opening one. Read forwards it is a matter of strays: the braces that count are
those behind the last stray one, and the place is guarded when one of them opens a block that
handles errors, whether the block is closed again or not.
-/

namespace SlopLint.Scope

open Text

/-- The part of a line that is in front of a column; without a column it is the line. -/
def cutAt (column : Option Int) (line : Line) : Line :=
  match column with
  | none => line
  | some column => line.take (max 0 (column - 1)).toNat

/-- The text from the start of the file to a place. -/
def textUpTo (lines : List Line) (k : Nat) (column : Option Int) : PlacedText :=
  marks 0 (lines.take k ++ [cutAt column (lines.getD k [])])

/-- Whether a brace at a place opens a block that handles errors. -/
def opensCatchAt (lines : List Line) (p : Place) : Bool :=
  opensCatch (lines.take p.line).reverse ((lines.getD p.line []).take p.column)

/-- Behind the last stray brace of the text, a block that handles errors is opened. -/
def Caught (lines : List Line) (text : PlacedText) : Prop :=
  ∃ p, (p, '\x7b') ∈ text ∧ (∀ q, IsStray text q → q.Before p) ∧ opensCatchAt lines p = true

lemma cutAt_prefix (column : Option Int) (line : Line) : cutAt column line <+: line := by
  cases column with
  | none => exact List.prefix_refl line
  | some column => exact List.take_prefix _ line

/-! ### One character on the way back -/

/-- What an opening brace does on the way back. -/
def Retreat.opened (b : Retreat) (opens : Bool) : Option Retreat :=
  match b.depth with
  | 0 => if opens then none else some b
  | depth + 1 =>
    if depth == 0 && (b.seenCatch || opens) then none else some ⟨depth, b.seenCatch || opens⟩

lemma across_opened (above : List Line) (b : Retreat) (rest : List Char) :
    b.across above ('\x7b' :: rest) =
      (b.opened (opensCatch above rest.reverse)).bind fun b => b.across above rest := by
  rw [Retreat.across, if_neg (by decide), if_pos (by decide)]
  unfold Retreat.opened
  dsimp only
  cases b.depth with
  | zero =>
    dsimp only
    split <;> rfl
  | succ depth =>
    dsimp only
    split <;> rfl

lemma isGuarded_natCast {lines : List Line} {k : Nat} {line : Line} (hline : lines[k]? = some line)
    (column : Option Int) :
    isGuarded lines k column =
      .ok (guardedFrom {} (cutAt column line :: (lines.take k).reverse)) := by
  unfold isGuarded
  rw [if_neg (by omega), lineAt_natCast, hline, Int.toNat_natCast]
  cases column with
  | none => rfl
  | some column =>
    have hcut : (max 0 (column - 1)).toNat = (column - 1).toNat := by omega
    simp only [cutAt, hcut]
    rfl

lemma isGuarded_succeeds {lines : List Line} {k : Nat} (column : Option Int)
    (hk : k < lines.length) : Succeeds (isGuarded lines k column) := by
  rw [isGuarded_natCast (List.getElem?_eq_getElem hk)]
  exact ok_succeeds _

lemma guardedFrom_nil (b : Retreat) (above : List Line) :
    guardedFrom b ([] :: above) = guardedFrom b above := rfl

lemma guardedFrom_closing (b : Retreat) (head : Line) (above : List Line) :
    guardedFrom b ((head ++ ['\x7d']) :: above) =
      guardedFrom ⟨b.depth + 1, b.seenCatch⟩ (head :: above) := by
  rw [guardedFrom, guardedFrom, List.reverse_concat, Retreat.across, if_pos (by decide)]

lemma guardedFrom_opening (b : Retreat) (head : Line) (above : List Line) :
    guardedFrom b ((head ++ ['\x7b']) :: above) =
      match b.opened (opensCatch above head) with
      | none => true
      | some b => guardedFrom b (head :: above) := by
  rw [guardedFrom, List.reverse_concat, across_opened, List.reverse_reverse]
  cases b.opened (opensCatch above head) <;> rfl

lemma guardedFrom_other {c : Char} (hopen : c ≠ '\x7b') (hclose : c ≠ '\x7d') (b : Retreat)
    (head : Line) (above : List Line) :
    guardedFrom b ((head ++ [c]) :: above) = guardedFrom b (head :: above) := by
  rw [guardedFrom, guardedFrom, List.reverse_concat, Retreat.across, if_neg (by simpa using hclose),
    if_neg (by simpa using hopen)]

/-! ### One character on the way forth -/

section Forth

variable {lines : List Line} {text : PlacedText} {p : Place}

/-- A brace that is stray takes everything in front of it out of account. -/
lemma not_caught_stray (hsorted : (text ++ [(p, '\x7d')]).Pairwise fun a b => a.1.Before b.1)
    (hopen : openBehind text = []) : ¬ Caught lines (text ++ [(p, '\x7d')]) := by
  rintro ⟨o, ho, hbehind, -⟩
  have hstray := hbehind p (isStray_concat.mpr (.inr ⟨rfl, hopen⟩))
  rcases List.mem_append.mp ho with ho | ho
  · exact hstray.not_before
      ((List.pairwise_append.mp hsorted).2.2 _ ho _ (List.mem_singleton_self _))
  · cases List.mem_singleton.mp ho

/-- Any other character leaves what counts as it is, and an opening brace may be one more. -/
lemma caught_concat {c : Char} (hsorted : (text ++ [(p, c)]).Pairwise fun a b => a.1.Before b.1)
    (hkept : c = '\x7d' → openBehind text ≠ []) :
    Caught lines (text ++ [(p, c)]) ↔
      Caught lines text ∨ (c = '\x7b' ∧ opensCatchAt lines p = true) := by
  have hstrays : ∀ q, IsStray (text ++ [(p, c)]) q ↔ IsStray text q := by
    intro q
    rw [isStray_concat, or_iff_left]
    rintro ⟨hmark, hopen⟩
    exact hkept (congrArg Prod.snd hmark) hopen
  unfold Caught
  simp only [hstrays]
  constructor
  · rintro ⟨o, ho, hbehind, hopens⟩
    rcases List.mem_append.mp ho with ho | ho
    · exact .inl ⟨o, ho, hbehind, hopens⟩
    · cases List.mem_singleton.mp ho
      exact .inr ⟨rfl, hopens⟩
  · rintro (⟨o, ho, hbehind, hopens⟩ | ⟨rfl, hopens⟩)
    · exact ⟨o, List.mem_append_left _ ho, hbehind, hopens⟩
    · refine ⟨p, by simp, ?_, hopens⟩
      intro q hq
      exact (List.pairwise_append.mp hsorted).2.2 _ hq.mem _ (List.mem_singleton_self _)

end Forth

/-! ### Both ways -/

/-- The lines above and the start of the next line are where the file begins. -/
def Begins (lines above : List Line) (head : Line) : Prop :=
  ∃ line below, lines = above.reverse ++ line :: below ∧ head <+: line

section Ways

variable {lines above : List Line} {head : Line}

lemma Begins.shorter {c : Char} (h : Begins lines above (head ++ [c])) : Begins lines above head := by
  obtain ⟨line, below, hlines, hline⟩ := h
  exact ⟨line, below, hlines, (List.prefix_append head [c]).trans hline⟩

lemma Begins.next {line : Line} (h : Begins lines (line :: above) head) :
    Begins lines above line := by
  obtain ⟨next, below, hlines, -⟩ := h
  exact ⟨line, next :: below, by simp [hlines], List.prefix_refl line⟩

lemma opensCatchAt_of_begins {c : Char} (h : Begins lines above (head ++ [c])) :
    opensCatchAt lines ⟨above.length, head.length⟩ = opensCatch above head := by
  obtain ⟨line, below, rfl, hline⟩ := h
  have habove : ((above.reverse ++ line :: below).take above.length).reverse = above := by
    rw [List.take_left' List.length_reverse, List.reverse_reverse]
  have hhere : (above.reverse ++ line :: below).getD above.length [] = line := by
    simp [List.getD_eq_getElem?_getD]
  have hhead : line.take head.length = head :=
    (List.prefix_iff_eq_take.mp ((List.prefix_append head [c]).trans hline)).symm
  unfold opensCatchAt
  dsimp only
  rw [habove, hhere, hhead]

lemma marks_concat (c : Char) :
    marks 0 (above.reverse ++ [head ++ [c]]) =
      marks 0 (above.reverse ++ [head]) ++ [(⟨above.length, head.length⟩, c)] := by
  rw [marks_append, marks_append, marks_singleton, marks_singleton, lineMarks_concat,
    List.length_reverse, Nat.zero_add, List.append_assoc]

/-- With closing braces waiting, the way back from a place is guarded when they are all opened in
front of it, and a block that handles errors has been passed or counts. -/
def WaysAgree (lines above : List Line) (head : Line) : Prop :=
  ∀ b : Retreat, (b.seenCatch = true → 0 < b.depth) →
    (guardedFrom b (head :: above) = true ↔
      b.depth ≤ (openBehind (marks 0 (above.reverse ++ [head]))).length ∧
        (b.seenCatch = true ∨ Caught lines (marks 0 (above.reverse ++ [head]))))

lemma waysAgree_start (lines : List Line) : WaysAgree lines [] [] := by
  rintro ⟨depth, seen⟩ hwaits
  have hnone : ¬ Caught lines [] := by
    rintro ⟨p, hp, -⟩
    cases hp
  have hopen : openBehind (marks 0 [[]]) = [] := rfl
  have hfalse : guardedFrom ⟨depth, seen⟩ [[]] = false := rfl
  dsimp only at hwaits
  rw [List.reverse_nil, List.nil_append, hopen, hfalse]
  constructor
  · intro h
    cases h
  · rintro ⟨hdepth, hseen | hcaught⟩
    · exact absurd hdepth (Nat.not_le_of_lt (hwaits hseen))
    · exact absurd hcaught hnone

lemma waysAgree_below {line : Line} (h : WaysAgree lines above line) :
    WaysAgree lines (line :: above) [] := by
  intro b hwaits
  have htext : marks 0 ((line :: above).reverse ++ [[]]) = marks 0 (above.reverse ++ [line]) := by
    rw [List.reverse_cons, marks_append _ _ [[]], marks_singleton]
    exact List.append_nil _
  rw [htext, guardedFrom_nil]
  exact h b hwaits

/-- An opening brace is one more that what waits can be opened by, and it may be one that counts. -/
lemma opened_iff {depth : Nat} {seen opens : Bool} {n : Nat} {caught : Prop} {after : Retreat → Bool}
    (hwaits : seen = true → 0 < depth)
    (h : ∀ b : Retreat, (b.seenCatch = true → 0 < b.depth) →
      (after b = true ↔ b.depth ≤ n ∧ (b.seenCatch = true ∨ caught))) :
    (match Retreat.opened ⟨depth, seen⟩ opens with
      | none => true
      | some b => after b) = true ↔
      depth ≤ n + 1 ∧ (seen = true ∨ caught ∨ opens = true) := by
  cases depth with
  | zero =>
    have hseen : seen = false := Bool.eq_false_iff.mpr fun hseen => absurd (hwaits hseen) (by decide)
    cases opens with
    | true => simp [Retreat.opened]
    | false => simp [Retreat.opened, h, hseen]
  | succ depth =>
    by_cases hstops : depth = 0 ∧ (seen = true ∨ opens = true)
    · obtain ⟨rfl, hpassed⟩ := hstops
      have hstop : (seen || opens) = true := by rwa [Bool.or_eq_true]
      have hopened : Retreat.opened ⟨0 + 1, seen⟩ opens = none := by
        simp [Retreat.opened, hstop]
      rw [hopened]
      exact iff_of_true rfl ⟨by omega, hpassed.imp_right .inr⟩
    · have hopened : Retreat.opened ⟨depth + 1, seen⟩ opens = some ⟨depth, seen || opens⟩ := by
        simpa [Retreat.opened] using hstops
      have hdeeper : (seen || opens) = true → 0 < depth := by
        intro hpassed
        rw [Bool.or_eq_true] at hpassed
        exact Nat.pos_of_ne_zero fun hzero => hstops ⟨hzero, hpassed⟩
      rw [hopened]
      refine (h ⟨depth, seen || opens⟩ hdeeper).trans ?_
      rw [Bool.or_eq_true, Nat.add_le_add_iff_right, or_assoc, or_comm (a := opens = true)]

/-- One more character in front of the place is passed first on the way back, and read last on the
way forth. -/
lemma waysAgree_concat {c : Char} (hbegins : Begins lines above (head ++ [c]))
    (h : WaysAgree lines above head) : WaysAgree lines above (head ++ [c]) := by
  rintro ⟨depth, seen⟩ hwaits
  have hsorted := pairwise_marks 0 (above.reverse ++ [head ++ [c]])
  dsimp only at hwaits
  unfold WaysAgree at h
  rw [marks_concat] at hsorted ⊢
  generalize marks 0 (above.reverse ++ [head]) = text at h hsorted ⊢
  rw [openBehind_concat]
  by_cases hclose : c = '\x7d'
  · subst hclose
    rw [guardedFrom_closing, h ⟨depth + 1, seen⟩ (fun _ => Nat.succ_pos depth)]
    cases hopen : openBehind text with
    | nil =>
      have hcaught : ¬ Caught lines _ := not_caught_stray hsorted hopen
      have hseen : ¬ (depth = 0 ∧ seen = true) := fun ⟨hzero, hseen⟩ =>
        absurd hzero (Nat.ne_of_gt (hwaits hseen))
      simpa [nextOpen, hcaught] using hseen
    | cons o rest =>
      have hcaught : Caught lines _ ↔ _ := caught_concat hsorted (fun _ => by simp [hopen])
      simp [nextOpen, hcaught]
  · by_cases hopen : c = '\x7b'
    · subst hopen
      have hcaught : Caught lines (text ++ [(⟨above.length, head.length⟩, '\x7b')]) ↔
          Caught lines text ∨ opensCatch above head = true := by
        rw [caught_concat hsorted (fun h => absurd h hclose), opensCatchAt_of_begins hbegins,
          and_iff_right rfl]
      rw [guardedFrom_opening, hcaught, nextOpen, if_pos rfl, List.length_cons]
      exact opened_iff hwaits h
    · have hcaught : Caught lines _ ↔ _ := caught_concat hsorted (fun h => absurd h hclose)
      rw [guardedFrom_other hopen hclose, h _ hwaits, hcaught]
      simp [nextOpen, hopen, hclose]

/-- The way back from a place and the way forth to it agree. -/
theorem waysAgree (hbegins : Begins lines above head) : WaysAgree lines above head := by
  induction above generalizing head with
  | nil =>
    induction head using List.reverseRecOn with
    | nil => exact waysAgree_start lines
    | append_singleton head c ih => exact waysAgree_concat hbegins (ih hbegins.shorter)
  | cons line above ihabove =>
    induction head using List.reverseRecOn with
    | nil => exact waysAgree_below (ihabove hbegins.next)
    | append_singleton head c ih => exact waysAgree_concat hbegins (ih hbegins.shorter)

end Ways

/-- A place is guarded just when, on the way forth to it, a brace behind the last stray one opens a
block that handles errors, whether the brace is still open at the place or has been closed. -/
theorem isGuarded_iff_opened_behind_strays (lines : List Line) {k : Nat} (hk : k < lines.length)
    (column : Option Int) :
    ∃ guarded, isGuarded lines k column = .ok guarded ∧
      (guarded = true ↔ ∃ p, (p, '\x7b') ∈ textUpTo lines k column ∧
        (∀ q, IsStray (textUpTo lines k column) q → q.Before p) ∧
        opensCatchAt lines p = true) := by
  have hline : lines[k]? = some lines[k] := List.getElem?_eq_getElem hk
  have hbegins : Begins lines (lines.take k).reverse (cutAt column lines[k]) := by
    refine ⟨lines[k], lines.drop (k + 1), ?_, cutAt_prefix column _⟩
    rw [List.reverse_reverse, ← List.drop_eq_getElem_cons hk, List.take_append_drop]
  have hagree := waysAgree hbegins {} (fun h => absurd h (by decide))
  refine ⟨_, isGuarded_natCast hline column, ?_⟩
  rw [hagree, List.reverse_reverse]
  simp only [textUpTo, List.getD_eq_getElem?_getD, hline, Option.getD_some]
  simp [Caught]

/-- The first brace is stray, and the clause behind it is closed in front of the place. -/
def closedClause : List Line :=
  ["\x7d catch (e) \x7b handle(e); \x7d".toList, "console.error(e);".toList]

theorem isGuarded_iff_opened_behind_strays_closedClause :
    1 < closedClause.length ∧ ∃ p, (p, '\x7b') ∈ textUpTo closedClause 1 (some 1) ∧
      (∀ q, IsStray (textUpTo closedClause 1 (some 1)) q → q.Before p) ∧
      opensCatchAt closedClause p = true := by
  have hinside : 1 < closedClause.length := by decide
  have hguarded : isGuarded closedClause 1 (some 1) = .ok true := by decide +kernel
  obtain ⟨guarded, hresult, hcaught⟩ :=
    isGuarded_iff_opened_behind_strays closedClause hinside (some 1)
  obtain rfl : true = guarded := Except.ok.inj (hguarded.symm.trans hresult)
  exact ⟨hinside, hcaught.mp rfl⟩

end SlopLint.Scope
