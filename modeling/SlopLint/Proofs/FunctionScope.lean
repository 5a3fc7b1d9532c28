import SlopLint.Proofs.BraceMatching
import SlopLint.Proofs.JoinedTexts
import SlopLint.Proofs.ScopeWindow

/-!
# Function scopes

The function of a line starts at the nearest anchor above it. Its body opens at the first brace of
the anchor's line by which more braces are opened than closed, and it ends where that brace is
closed. The line need not be in between: a body that is closed above the line is taken for its
function all the same, and the line is inside just when the lines above it leave the body open.
-/

namespace SlopLint.Scope

open Text

/-! ### Anchors -/

/-- The word stands somewhere on the line. -/
def Holds (line : Line) (word : String) : Prop :=
  word.toList <:+: line

/-- The line has a sign of a function, or of a component's state. -/
def StartsFunction (line : Line) : Prop :=
  Holds line "function" ∨ Holds line "=>" ∨ (Holds line "const" ∧
    ∃ hook ∈ ["useState", "useEffect", "useCallback", "useMemo"], Holds line hook)

/-- A function may start on the line with this number. -/
def AnchorAt (lines : List Line) (i : Nat) : Prop :=
  ∃ line, lines[i]? = some line ∧
    ((StartsFunction line ∧ (Holds line "\x7b" ∨ Holds line "=>")) ∨
      (0 < i ∧ ∃ above, lines[i - 1]? = some above ∧ Holds (above ++ line) "=>" ∧
        (strip line).head? = some '\x7b'))

/-- The nearest line from `k` upwards on which a function may start is `s`. -/
structure NearestAnchor (lines : List Line) (k s : Nat) : Prop where
  low : k - lookback ≤ s
  high : s ≤ k
  anchor : AnchorAt lines s
  nearest : ∀ i, s < i → i ≤ k → ¬ AnchorAt lines i

lemma has_iff {line : Line} {word : String} : has line word = true ↔ Holds line word :=
  occursIn_iff

lemma opensFunction_iff {line : Line} : opensFunction line = true ↔ StartsFunction line := by
  simp only [opensFunction, StartsFunction, hasAny, Bool.or_eq_true, Bool.and_eq_true,
    List.any_eq_true, has_iff, or_assoc]

lemma isAnchor_iff {lines : List Line} {i : Nat} {line : Line} (hline : lines[i]? = some line) :
    isAnchor (if i = 0 then none else lines[i - 1]?) line = true ↔ AnchorAt lines i := by
  have habove : (if i = 0 then none else lines[i - 1]?).any (fun previous =>
      has (previous ++ line) "=>" && (strip line).head? == some '\x7b') = true ↔
      0 < i ∧ ∃ above, lines[i - 1]? = some above ∧ Holds (above ++ line) "=>" ∧
        (strip line).head? = some '\x7b' := by
    by_cases hi : i = 0
    · simp [hi]
    · simp [hi, Option.any_eq_true, has_iff, Nat.pos_of_ne_zero hi]
  unfold isAnchor AnchorAt
  rw [Bool.or_eq_true, habove, Bool.and_eq_true, Bool.or_eq_true, opensFunction_iff, has_iff, has_iff,
    hline]
  simp

/-- The way up stops at the nearest anchor. -/
lemma findAnchor_eq_some_iff {lines : List Line} {steps i s : Nat} (hi : i < lines.length) :
    findAnchor lines steps i = .ok (some s) ↔
      s ≤ i ∧ i < s + steps ∧ AnchorAt lines s ∧ ∀ j, s < j → j ≤ i → ¬ AnchorAt lines j := by
  induction steps generalizing i with
  | zero =>
    refine iff_of_false (by simp [findAnchor]) ?_
    omega
  | succ steps ih =>
    have hline : lines[i]? = some lines[i] := List.getElem?_eq_getElem hi
    have hhere := isAnchor_iff hline
    rw [findAnchor_succ hline]
    by_cases hanchor : AnchorAt lines i
    · rw [if_pos (hhere.mpr hanchor), Except.ok.injEq, Option.some.injEq]
      constructor
      · rintro rfl
        exact ⟨Nat.le_refl _, by omega, hanchor, by omega⟩
      · rintro ⟨hle, -, -, hnearest⟩
        by_contra hne
        exact hnearest i (by omega) (Nat.le_refl _) hanchor
    · rw [if_neg (mt hhere.mp hanchor)]
      have hother : AnchorAt lines s → s ≠ i := by
        rintro hs rfl
        exact hanchor hs
      by_cases hzero : i = 0
      · rw [if_pos hzero]
        refine iff_of_false (by simp) ?_
        rintro ⟨hle, -, hs, -⟩
        have := hother hs
        omega
      · rw [if_neg hzero, ih (by omega)]
        constructor
        · rintro ⟨hle, hlt, hs, hnearest⟩
          refine ⟨by omega, by omega, hs, ?_⟩
          intro j hsj hji
          by_cases hj : j = i
          · exact hj ▸ hanchor
          · exact hnearest j hsj (by omega)
        · rintro ⟨hle, hlt, hs, hnearest⟩
          have := hother hs
          exact ⟨by omega, by omega, hs, fun j hsj hji => hnearest j hsj (by omega)⟩

lemma findAnchor_lookback_iff {lines : List Line} {k s : Nat} (hk : k < lines.length) :
    findAnchor lines (min k lookback + 1) k = .ok (some s) ↔ NearestAnchor lines k s := by
  rw [findAnchor_eq_some_iff hk]
  constructor
  · rintro ⟨hhigh, hlow, hanchor, hnearest⟩
    exact ⟨by omega, hhigh, hanchor, hnearest⟩
  · rintro ⟨hlow, hhigh, hanchor, hnearest⟩
    exact ⟨hhigh, by omega, hanchor, hnearest⟩

/-! ### Bodies -/

/-- Behind `before`, the brace at `p` is the first one by which a text has opened one brace more than
it has closed. -/
structure OpensFirst (before : PlacedText) (p : Place) : Prop where
  one : surplus (before ++ [(p, '\x7b')]) = 1
  first : ∀ front, front <+: before → surplus front ≠ 1

/-- The body of a function that starts on line `start` ends on line `stop`. -/
def BodySpans (text : PlacedText) (start stop : Nat) : Prop :=
  ∃ before p after q, text = before ++ (p, '\x7b') :: after ∧ p.line = start ∧
    OpensFirst before p ∧ Closes ((p, '\x7b') :: after) p q ∧ q.line = stop

/-- The text in which the body of a function that starts on line `start` has to end, for line `k`. -/
def bodyText (lines : List Line) (k start : Nat) : PlacedText :=
  marks start ((lines.take (k + lookahead)).drop start)

/-- The place at which the body is closed, going over a text as one goes over its lines. -/
def Depth.closedAt (start : Nat) : Depth → PlacedText → Option Place
  | _, [] => none
  | d, (p, c) :: rest =>
    if c = '\x7b' then
      closedAt start ⟨d.depth + 1, d.entered || (p.line == start && d.depth + 1 == 1)⟩ rest
    else if c = '\x7d' then
      if d.entered && d.depth - 1 == 0 then some p
      else closedAt start { d with depth := d.depth - 1 } rest
    else closedAt start d rest

section Flat

variable {start : Nat}

/-- The line from a column on, in front of the lines below it. -/
lemma closedAt_across (i column : Nat) (d : Depth) (line : Line) (rest : PlacedText) :
    (d.closedAt start
        ((line.zipIdx column).map (fun (c, j) => ((⟨i, j⟩ : Place), c)) ++ rest)).map Place.line =
      match d.across (i == start) line with
      | none => some i
      | some d => (d.closedAt start rest).map Place.line := by
  induction line generalizing column d with
  | nil => rfl
  | cons c line ih =>
    rw [List.zipIdx_cons, List.map_cons, List.cons_append, Depth.closedAt, Depth.across]
    simp only [beq_iff_eq (b := '\x7b'), beq_iff_eq (b := '\x7d')]
    by_cases hopen : c = '\x7b'
    · rw [if_pos hopen, if_pos hopen]
      exact ih (column + 1) _
    · rw [if_neg hopen, if_neg hopen]
      by_cases hclose : c = '\x7d'
      · rw [if_pos hclose, if_pos hclose]
        split
        · rfl
        · exact ih (column + 1) _
      · rw [if_neg hclose, if_neg hclose]
        exact ih (column + 1) d

lemma closingLine_eq (i : Nat) (d : Depth) (lines : List Line) :
    closingLine start i d lines = (d.closedAt start (marks i lines)).map Place.line := by
  induction lines generalizing i d with
  | nil => rfl
  | cons line lines ih =>
    rw [marks_cons, lineMarks, closedAt_across, closingLine]
    cases d.across (i == start) line with
    | none => rfl
    | some d => exact ih (i + 1) d

lemma closedAt_opening (depth : Int) (entered : Bool) (p : Place) (rest : PlacedText) :
    Depth.closedAt start ⟨depth, entered⟩ ((p, '\x7b') :: rest) =
      Depth.closedAt start ⟨depth + 1, entered || (p.line == start && depth + 1 == 1)⟩ rest := by
  rw [Depth.closedAt, if_pos rfl]

lemma closedAt_closing (depth : Int) (entered : Bool) (p : Place) (rest : PlacedText) :
    Depth.closedAt start ⟨depth, entered⟩ ((p, '\x7d') :: rest) =
      if entered && depth - 1 == 0 then some p
      else Depth.closedAt start ⟨depth - 1, entered⟩ rest := by
  rw [Depth.closedAt, if_neg (by decide), if_pos rfl]

lemma closedAt_other {c : Char} (hopen : c ≠ '\x7b') (hclose : c ≠ '\x7d') (d : Depth) (p : Place)
    (rest : PlacedText) : d.closedAt start ((p, c) :: rest) = d.closedAt start rest := by
  rw [Depth.closedAt, if_neg hopen, if_neg hclose]

/-- Once the body is open it ends at the first place at which all is closed. -/
lemma closedAt_entered_iff {n : Int} (hn : 0 ≤ n) {text : PlacedText} {q : Place} :
    Depth.closedAt start ⟨n + 1, true⟩ text = some q ↔
      ∃ inside after, text = inside ++ (q, '\x7d') :: after ∧ ComesToZero (0 ≤ ·) n inside := by
  induction text generalizing n with
  | nil => simp [Depth.closedAt]
  | cons mark text ih =>
    obtain ⟨p, c⟩ := mark
    rw [exists_split_cons]
    by_cases hopen : c = '\x7b'
    · subst hopen
      simp only [comesToZero_cons (0 ≤ ·) (surplus_opening p) hn]
      rw [closedAt_opening, or_iff_right (by simp)]
      exact ih (by omega)
    · by_cases hclose : c = '\x7d'
      · subst hclose
        simp only [comesToZero_cons (0 ≤ ·) (surplus_closing p) hn, comesToZero_nil]
        rw [closedAt_closing]
        by_cases hzero : n = 0
        · subst hzero
          have hgone : ¬ ∃ inside after, text = inside ++ (q, '\x7d') :: after ∧
              ComesToZero (0 ≤ ·) (0 + -1) inside := by
            rintro ⟨inside, after, -, hlevels⟩
            exact not_comesToZero (by decide) hlevels
          rw [or_iff_left hgone]
          simp
        · have hback : n + 1 - 1 = n + -1 + 1 := by omega
          have hstays : (true && n + 1 - 1 == 0) = false := by
            simpa using hzero
          rw [hstays, if_neg Bool.false_ne_true, hback, ih (by omega), or_iff_right (by simp [hzero])]
      · simp only [comesToZero_cons (0 ≤ ·) (surplus_other hopen hclose p) hn, Int.add_zero]
        rw [closedAt_other hopen hclose, ih hn, or_iff_right (by simp [hclose])]

/-- Below the line of the anchor no body is opened. -/
lemma closedAt_below (d : Int) {text : PlacedText} (hbelow : ∀ mark ∈ text, mark.1.line ≠ start) :
    Depth.closedAt start ⟨d, false⟩ text = none := by
  induction text generalizing d with
  | nil => rfl
  | cons mark text ih =>
    obtain ⟨hmark, htext⟩ := List.forall_mem_cons.mp hbelow
    have hother : (mark.1.line == start) = false := by simpa using hmark
    unfold Depth.closedAt
    simp [hother, ih _ htext]

/-- The body is opened by the first brace that is one too many, if it is on the line of the anchor. -/
lemma closedAt_unentered_iff {d : Int} (hd : d ≤ 0) {text : PlacedText}
    (hlow : ∀ mark ∈ text, start ≤ mark.1.line)
    (hsorted : text.Pairwise fun a b => a.1.Before b.1) {q : Place} :
    Depth.closedAt start ⟨d, false⟩ text = some q ↔
      ∃ p, p.line = start ∧ ∃ before after, text = before ++ (p, '\x7b') :: after ∧
        ComesToZero (· ≠ 1) d before ∧ Depth.closedAt start ⟨1, true⟩ after = some q := by
  induction text generalizing d with
  | nil => simp [Depth.closedAt]
  | cons mark text ih =>
    obtain ⟨o, c⟩ := mark
    obtain ⟨hhere, hrest⟩ := List.forall_mem_cons.mp hlow
    obtain ⟨hlater, htext⟩ := List.pairwise_cons.mp hsorted
    have hone : d ≠ 1 := by omega
    simp only [exists_split_cons]
    by_cases hopen : c = '\x7b'
    · subst hopen
      simp only [comesToZero_cons (· ≠ 1) (surplus_opening o) hone, comesToZero_nil]
      rw [closedAt_opening]
      by_cases hzero : d = 0
      · -- This brace is one too many, so that none behind it opens the body.
        subst hzero
        have hgone : ∀ before : PlacedText, ¬ ComesToZero (· ≠ 1) (0 + 1) before := fun before =>
          not_comesToZero (by decide)
        simp only [hgone, false_and, and_false, exists_false, or_false]
        by_cases hline : o.line = start
        · simp [hline]
        · have hbelow : ∀ mark ∈ text, mark.1.line ≠ start := by
            intro mark hmark
            have hafter := (hlater mark hmark).line_le
            dsimp only at hhere hafter
            omega
          have hpassed : (o.line == start) = false := by simpa using hline
          rw [hpassed, Bool.false_and, Bool.or_false, closedAt_below _ hbelow]
          simp [hline]
      · have hdeeper : (d + 1 == 1) = false := beq_eq_false_iff_ne.mpr (by omega)
        rw [hdeeper, Bool.and_false, Bool.or_false, ih (by omega) hrest htext]
        simp only [hzero, false_and, and_false, false_or]
    · have hother : ∀ p : Place, ((o, c) = (p, '\x7b')) = False := by simp [hopen]
      simp only [hother, false_and, false_or]
      by_cases hclose : c = '\x7d'
      · subst hclose
        simp only [comesToZero_cons (· ≠ 1) (surplus_closing o) hone]
        rw [closedAt_closing, Bool.false_and, if_neg Bool.false_ne_true]
        exact ih (by omega) hrest htext
      · simp only [comesToZero_cons (· ≠ 1) (surplus_other hopen hclose o) hone, Int.add_zero]
        rw [closedAt_other hopen hclose]
        exact ih hd hrest htext

end Flat

lemma opensFirst_iff {before : PlacedText} {p : Place} :
    OpensFirst before p ↔ ComesToZero (· ≠ 1) 0 before := by
  have hsurplus : surplus (before ++ [(p, '\x7b')]) = surplus before + 1 := by
    rw [surplus_append, surplus_opening, surplus_nil, Int.zero_add]
  constructor
  · rintro ⟨hone, hfirst⟩
    rw [hsurplus] at hone
    refine ⟨by omega, ?_⟩
    simpa only [Int.zero_add] using hfirst
  · rintro ⟨hzero, hfirst⟩
    refine ⟨by omega, ?_⟩
    simpa only [Int.zero_add] using hfirst

/-- The body of the function ends where its first brace is closed. -/
lemma closingLine_eq_some_iff {start stop : Nat} {lines : List Line} :
    closingLine start start {} lines = some stop ↔ BodySpans (marks start lines) start stop := by
  have hlow : ∀ mark ∈ marks start lines, start ≤ mark.1.line := fun mark hmark =>
    (line_of_mem_marks hmark).1
  have hsorted := pairwise_marks start lines
  generalize htext : marks start lines = text at hlow hsorted ⊢
  rw [closingLine_eq, htext, Option.map_eq_some_iff]
  constructor
  · rintro ⟨q, hclosed, rfl⟩
    obtain ⟨p, hline, before, after, rfl, hopens, hclosed⟩ :=
      (closedAt_unentered_iff (Int.le_refl 0) hlow hsorted).mp hclosed
    refine ⟨before, p, after, q, rfl, hline, opensFirst_iff.mpr hopens, ?_, rfl⟩
    rw [closes_first_iff (ne_of_pairwise hsorted)]
    exact (closedAt_entered_iff (Int.le_refl 0)).mp hclosed
  · rintro ⟨before, p, after, q, rfl, hline, hopens, hcloses, rfl⟩
    rw [closes_first_iff (ne_of_pairwise hsorted)] at hcloses
    refine ⟨q, (closedAt_unentered_iff (Int.le_refl 0) hlow hsorted).mpr ?_, rfl⟩
    exact ⟨p, hline, before, after, rfl, opensFirst_iff.mp hopens,
      (closedAt_entered_iff (Int.le_refl 0)).mpr hcloses⟩

/-! ### Scopes -/

section Scopes

variable {lines : List Line} {k start stop : Nat}

lemma functionScope_eq_some_iff (hk : k < lines.length) :
    functionScope lines k = .ok (some (start, stop)) ↔
      NearestAnchor lines k start ∧ BodySpans (bodyText lines k start) start stop := by
  rw [functionScope_natCast]
  obtain ⟨anchor, hanchor⟩ := findAnchor_succeeds (min k lookback + 1) hk
  have hnearest : ∀ s, anchor = some s ↔ NearestAnchor lines k s := by
    intro s
    rw [← findAnchor_lookback_iff hk, hanchor, Except.ok.injEq]
  rw [hanchor]
  simp only [Except.map, Except.ok.injEq, Option.bind_eq_some_iff, Option.map_eq_some_iff,
    Prod.mk.injEq, hnearest, closingLine_eq_some_iff]
  constructor
  · rintro ⟨_, hstart, _, hbody, rfl, rfl⟩
    exact ⟨hstart, hbody⟩
  · rintro ⟨hstart, hbody⟩
    exact ⟨start, hstart, stop, hbody, rfl, rfl⟩

end Scopes

/-- The function of a line goes from its nearest anchor to where its body is closed, the body being
opened on the line of the anchor by the first brace that is one too many. In all other cases the line
is in no function. -/
theorem functionScope_matches_braces (lines : List Line) {k : Nat} (hk : k < lines.length) :
    ∃ scope, functionScope lines k = .ok scope ∧ ∀ start stop, scope = some (start, stop) ↔
      NearestAnchor lines k start ∧ BodySpans (bodyText lines k start) start stop := by
  obtain ⟨scope, hscope⟩ := functionScope_succeeds hk
  refine ⟨scope, hscope, ?_⟩
  intro start stop
  rw [← functionScope_eq_some_iff hk, hscope, Except.ok.injEq]

/-- A call in a function that ends below it. -/
def calledInside : List Line :=
  ["const load = () => \x7b".toList, "  fetch('/x');".toList, "\x7d;".toList]

theorem functionScope_matches_braces_calledInside :
    1 < calledInside.length ∧ NearestAnchor calledInside 1 0 ∧
      BodySpans (bodyText calledInside 1 0) 0 2 := by
  have hinside : 1 < calledInside.length := by decide
  have hspan : functionScope calledInside 1 = .ok (some (0, 2)) := by decide +kernel
  obtain ⟨scope, hscope, hmatches⟩ := functionScope_matches_braces calledInside hinside
  obtain rfl : some (0, 2) = scope := Except.ok.inj (hspan.symm.trans hscope)
  exact ⟨hinside, (hmatches 0 2).mp rfl⟩

-- The brace of the anchor's line only makes up for the one in front of it.
example : functionScope ["\x7d, () => \x7b".toList, "fetch('/x');".toList, "\x7d);".toList] 1 =
    .ok none := by
  decide

/-! ### Lines outside of their scopes -/

/-- Once the text has opened a brace too many, it leaves one open. -/
def StaysOpen (text : PlacedText) : Prop :=
  ∀ early front, early <+: front → front <+: text → surplus early = 1 → 1 ≤ surplus front

section Outside

variable {above below before inside after : PlacedText} {p q : Place} {k : Nat}

lemma OpensFirst.prefix_of_early (hopens : OpensFirst before p) {early rest : PlacedText}
    (hearly : early <+: before ++ (p, '\x7b') :: rest) (hone : surplus early = 1) :
    before ++ [(p, '\x7b')] <+: early := by
  have hbrace : before ++ [(p, '\x7b')] <+: before ++ (p, '\x7b') :: rest := ⟨rest, by simp⟩
  rcases List.prefix_or_prefix_of_prefix hearly hbrace with hshort | hlong
  · rcases List.prefix_concat_iff.mp hshort with rfl | hbefore
    · exact List.prefix_refl _
    · exact absurd hone (hopens.first early hbefore)
  · exact hlong

/-- A member of two lists put together is in the second one, behind the first, or in the first. -/
lemma split_append {α : Type} {first second front rest : List α} {a : α}
    (h : first ++ second = front ++ a :: rest) :
    (a ∈ second ∧ first <+: front) ∨ (a ∈ first ∧ front ++ [a] <+: first) := by
  rcases List.append_eq_append_iff.mp h with ⟨gap, rfl, hsecond⟩ | ⟨gap, rfl, hrest⟩
  · exact .inl ⟨by simp [hsecond], List.prefix_append _ _⟩
  · cases gap with
    | nil =>
      obtain rfl : a :: rest = second := hrest
      exact .inl ⟨List.mem_cons_self, by simp⟩
    | cons b gap =>
      obtain ⟨rfl, -⟩ := List.cons.inj hrest
      exact .inr ⟨by simp, ⟨gap, by simp⟩⟩

/-- When the body is closed from line `k` on, what is above leaves it open. -/
lemma staysOpen_of_le (htext : above ++ below = before ++ (p, '\x7b') :: inside ++ (q, '\x7d') :: after)
    (habove : ∀ mark ∈ above, mark.1.line < k) (hopens : OpensFirst before p)
    (hinside : ComesToZero (0 ≤ ·) 0 inside) (hle : k ≤ q.line) : StaysOpen above := by
  have hwhole : above <+: before ++ (p, '\x7b') :: inside := by
    rcases split_append htext with ⟨-, hwhole⟩ | ⟨hq, -⟩
    · exact hwhole
    · exact absurd (habove _ hq) (Nat.not_lt_of_le hle)
  intro early front hearly hfront hone
  obtain ⟨tail, rfl⟩ := (hopens.prefix_of_early (hearly.trans (hfront.trans hwhole)) hone).trans hearly
  have htail : tail <+: inside := by
    have hall := hfront.trans hwhole
    rwa [List.append_assoc, List.prefix_append_right_inj, List.singleton_append,
      List.cons_prefix_cons, and_iff_right rfl] at hall
  have hkept := hinside.2 tail htail
  rw [surplus_append, hopens.one]
  omega

/-- When it is closed above line `k`, what is above does not. -/
lemma not_staysOpen_of_lt
    (htext : above ++ below = before ++ (p, '\x7b') :: inside ++ (q, '\x7d') :: after)
    (hbelow : ∀ mark ∈ below, k ≤ mark.1.line) (hopens : OpensFirst before p)
    (hinside : ComesToZero (0 ≤ ·) 0 inside) (hlt : q.line < k) : ¬ StaysOpen above := by
  have hclosed : before ++ (p, '\x7b') :: inside ++ [(q, '\x7d')] <+: above := by
    rcases split_append htext with ⟨hq, -⟩ | ⟨-, hclosed⟩
    · exact absurd (hbelow _ hq) (Nat.not_le_of_lt hlt)
    · exact hclosed
  intro hstays
  have hend := hstays (before ++ [(p, '\x7b')]) _ ⟨inside ++ [(q, '\x7d')], by simp⟩ hclosed
    hopens.one
  have hbefore := hopens.one
  have hzero := hinside.1
  rw [surplus_append, surplus_append, surplus_opening, surplus_closing, surplus_nil] at hend
  rw [surplus_append, surplus_opening, surplus_nil] at hbefore
  omega

end Outside

lemma lt_length_of_functionScope {lines : List Line} {k : Nat} {scope : Option (Nat × Nat)}
    (h : functionScope lines k = .ok scope) : k < lines.length := by
  by_contra hout
  have hnone : lines[k]? = none := List.getElem?_eq_none (by omega)
  rw [functionScope_natCast, findAnchor_succ_none hnone] at h
  cases h

lemma bodyText_eq {lines : List Line} {k start : Nat} (hk : k < lines.length) (hstart : start ≤ k) :
    bodyText lines k start =
      marks start ((lines.take k).drop start) ++ marks k ((lines.take (k + lookahead)).drop k) := by
  have hlines : (lines.take (k + lookahead)).drop start =
      (lines.take k).drop start ++ (lines.take (k + lookahead)).drop k := by
    have htake : (lines.take (k + lookahead)).take k = lines.take k := by
      rw [List.take_take, Nat.min_eq_left (Nat.le_add_right k lookahead)]
    conv_lhs => rw [← List.take_append_drop k (lines.take (k + lookahead)), htake]
    rw [List.drop_append_of_le_length]
    rw [List.length_take]
    omega
  have hlength : start + ((lines.take k).drop start).length = k := by
    rw [List.length_drop, List.length_take]
    omega
  rw [bodyText, hlines, marks_append, hlength]

/-- The function of a line starts at the line or above it. It reaches the line just when the lines
from its start on leave its body open above the line. -/
theorem functionScope_encloses_iff {lines : List Line} {k start stop : Nat}
    (h : functionScope lines k = .ok (some (start, stop))) :
    start ≤ k ∧ k ≤ start + lookback ∧ start ≤ stop ∧ stop < k + lookahead ∧ stop < lines.length ∧
      (k ≤ stop ↔ StaysOpen (marks start ((lines.take k).drop start))) := by
  have hk := lt_length_of_functionScope h
  obtain ⟨hanchor, before, p, after, q, htext, -, hopens, hcloses, rfl⟩ :=
    (functionScope_eq_some_iff hk).mp h
  have hlow := hanchor.low
  have hhigh := hanchor.high
  have hsorted := pairwise_marks start ((lines.take (k + lookahead)).drop start)
  rw [← bodyText, htext] at hsorted
  obtain ⟨inside, after, rfl, hinside⟩ := (closes_first_iff (ne_of_pairwise hsorted)).mp hcloses
  have hq : (q, '\x7d') ∈ bodyText lines k start := by
    rw [htext]
    simp
  obtain ⟨hfirst, hlast⟩ := line_of_mem_marks hq
  rw [List.length_drop, List.length_take] at hlast
  dsimp only at hfirst hlast
  refine ⟨hhigh, by omega, hfirst, by omega, by omega, ?_⟩
  rw [bodyText_eq hk hhigh] at htext
  have habove : ∀ mark ∈ marks start ((lines.take k).drop start), mark.1.line < k := by
    intro mark hmark
    have hline := (line_of_mem_marks hmark).2
    rw [List.length_drop, List.length_take] at hline
    omega
  constructor
  · exact staysOpen_of_le (by simpa using htext) habove hopens hinside
  · intro hstays
    by_contra hout
    exact not_staysOpen_of_lt (by simpa using htext) (fun mark hmark => (line_of_mem_marks hmark).1)
      hopens hinside (Nat.lt_of_not_le hout) hstays

/-- A call below a function that is finished on its first line. -/
def calledBelow : List Line :=
  ["function f() \x7b try \x7b g(); \x7d catch (e) \x7b\x7d \x7d".toList, [], [], [],
    "fetch('/x');".toList]

theorem functionScope_encloses_iff_calledBelow :
    functionScope calledBelow 4 = .ok (some (0, 0)) ∧
      ¬ StaysOpen (marks 0 ((calledBelow.take 4).drop 0)) := by
  have hspan : functionScope calledBelow 4 = .ok (some (0, 0)) := by decide +kernel
  obtain ⟨-, -, -, -, -, hreaches⟩ := functionScope_encloses_iff hspan
  exact ⟨hspan, mt hreaches.mpr (by decide)⟩

/-- The function that is taken for the one of the call does not reach it, and the errors it handles
are taken for those of the call. -/
theorem functionScope_misses_line :
    4 < calledBelow.length ∧ functionScope calledBelow 4 = .ok (some (0, 0)) ∧
      ¬ (0 ≤ 4 ∧ 4 ≤ 0) ∧ isCallHandled calledBelow 4 = .ok true := by
  have hspan : functionScope calledBelow 4 = .ok (some (0, 0)) := by decide +kernel
  have hhandled : isCallHandled calledBelow 4 = .ok true := by decide +kernel
  exact ⟨by decide, hspan, by decide, hhandled⟩

end SlopLint.Scope
