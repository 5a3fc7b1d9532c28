import SlopLint.Proofs.FailingSteps
import SlopLint.Scope

/-!
# The lines that decide on a scope

Whether the errors of a call are handled is decided by a window of lines: as many above the call
as a function may start there, one more at which an arrow may stand, and as many from the call on
as a function may end there. Neither the lines outside of the window nor its place in the file
matter.
-/

namespace SlopLint.Scope

open Text

/-- How many lines above a line belong to its window. -/
def windowAbove : Nat := lookback + 1

/-- The window of a line. -/
def window (lines : List Line) (k : Nat) : List Line :=
  (lines.take (k + lookahead)).drop (k - windowAbove)

/-- The place of a line in its window. -/
def windowIndex (k : Nat) : Nat := min k windowAbove

/-! ### Looking up lines -/

lemma lineAt_natCast (lines : List Line) (i : Nat) :
    lineAt lines i =
      match lines[i]? with
      | some line => .ok line
      | none => .error ⟨i⟩ := by
  have hline := nth?_natCast lines i
  unfold lineAt
  cases h : lines[i]? with
  | none => simp only [hline, h]
  | some line => simp only [hline, h]

lemma clampBound_natCast (length bound : Nat) : clampBound length bound = min bound length := by
  unfold clampBound
  rw [if_neg (by omega), Int.toNat_natCast]

lemma range_natCast {α : Type} (entries : List α) (lo hi : Nat) :
    range entries (lo : Int) (hi : Int) = (entries.take hi).drop lo := by
  unfold range
  rw [clampBound_natCast, clampBound_natCast]
  apply List.ext_getElem?
  intro i
  dsimp only
  rw [List.getElem?_take, List.getElem?_drop, List.getElem?_drop, List.getElem?_take]
  by_cases hin : lo + i < entries.length
  · have hmin : min lo entries.length = lo := by omega
    rw [hmin]
    by_cases hlt : lo + i < hi
    · rw [if_pos (by omega), if_pos hlt]
    · rw [if_neg (by omega), if_neg hlt]
  · rw [if_neg (by omega)]
    split
    · exact (List.getElem?_eq_none (by omega)).symm
    · rfl

/-- A part of the file inside of the window is a part of the window. -/
lemma slice_window (lines : List Line) (k lo hi : Nat) (hhi : hi ≤ windowIndex k + lookahead) :
    (lines.take (k - windowAbove + hi)).drop (k - windowAbove + lo) =
      ((window lines k).take hi).drop lo := by
  unfold windowIndex at hhi
  apply List.ext_getElem?
  intro i
  unfold window
  simp only [List.getElem?_drop, List.getElem?_take]
  by_cases h : lo + i < hi
  · rw [if_pos (by omega), if_pos h, if_pos (by omega), Nat.add_assoc]
  · rw [if_neg (by omega), if_neg h]

lemma getElem?_window (lines : List Line) (k : Nat) :
    (window lines k)[windowIndex k]? = lines[k]? := by
  have hlookahead : 0 < lookahead := by decide
  unfold window windowIndex
  rw [List.getElem?_drop, List.getElem?_take, if_pos (by omega)]
  congr 1
  omega

/-! ### Anchors -/

lemma findAnchor_succ {lines : List Line} {steps i : Nat} {line : Line}
    (hline : lines[i]? = some line) :
    findAnchor lines (steps + 1) i =
      if isAnchor (if i = 0 then none else lines[i - 1]?) line then .ok (some i)
      else if i = 0 then .ok none
      else findAnchor lines steps (i - 1) := by
  conv => lhs; unfold findAnchor
  rw [lineAt_natCast, hline]
  cases i <;> rfl

lemma findAnchor_succ_none {lines : List Line} {steps i : Nat} (hline : lines[i]? = none) :
    findAnchor lines (steps + 1) i = .error ⟨i⟩ := by
  unfold findAnchor
  rw [lineAt_natCast, hline]
  rfl

/-- Lines below the one that is searched from do not matter for its anchor. -/
lemma findAnchor_take (lines : List Line) (n steps i : Nat) (h : i < n) :
    findAnchor (lines.take n) steps i = findAnchor lines steps i := by
  induction steps generalizing i with
  | zero => rfl
  | succ steps ih =>
    have hlook : ∀ j < n, (lines.take n)[j]? = lines[j]? := by
      intro j hj
      rw [List.getElem?_take, if_pos hj]
    cases hline : lines[i]? with
    | none => rw [findAnchor_succ_none hline, findAnchor_succ_none ((hlook i h).trans hline)]
    | some line =>
      rw [findAnchor_succ hline, findAnchor_succ ((hlook i h).trans hline),
        hlook (i - 1) (by omega), ih (i - 1) (by omega)]

/-- An anchor that is not looked for above the window moves with it. -/
lemma findAnchor_append (before lines : List Line) (steps i : Nat) (hi : i < lines.length)
    (hsteps : steps ≤ i) :
    findAnchor (before ++ lines) steps (before.length + i) =
      (findAnchor lines steps i).map (Option.map (before.length + ·)) := by
  induction steps generalizing i with
  | zero => rfl
  | succ steps ih =>
    have hlook : ∀ j, (before ++ lines)[before.length + j]? = lines[j]? := by
      intro j
      rw [List.getElem?_append_right (by omega), Nat.add_sub_cancel_left]
    have hline : lines[i]? = some lines[i] := List.getElem?_eq_getElem hi
    have hback : before.length + i - 1 = before.length + (i - 1) := by omega
    rw [findAnchor_succ hline, findAnchor_succ ((hlook i).trans hline), hback, hlook,
      ih (i - 1) (by omega) (by omega), if_neg (by omega : ¬ before.length + i = 0),
      if_neg (by omega : ¬ i = 0), if_neg (by omega : ¬ before.length + i = 0),
      if_neg (by omega : ¬ i = 0)]
    split <;> rfl

/-! ### Closing lines -/

lemma closingLine_add (a start i : Nat) (d : Depth) (lines : List Line) :
    closingLine (a + start) (a + i) d lines = (closingLine start i d lines).map (a + ·) := by
  induction lines generalizing i d with
  | nil => rfl
  | cons line rest ih =>
    have hanchor : (a + i == a + start) = (i == start) := by
      rw [Bool.eq_iff_iff, beq_iff_eq, beq_iff_eq]
      omega
    unfold closingLine
    rw [hanchor]
    cases d.across (i == start) line with
    | none => rfl
    | some d => exact ih (i + 1) d

lemma closingLine_le {start i stop : Nat} {d : Depth} {lines : List Line}
    (h : closingLine start i d lines = some stop) : i ≤ stop := by
  induction lines generalizing i d with
  | nil => cases h
  | cons line rest ih =>
    unfold closingLine at h
    cases hacross : d.across (i == start) line with
    | none =>
      rw [hacross] at h
      cases h
      exact Nat.le_refl _
    | some d =>
      rw [hacross] at h
      exact Nat.le_of_succ_le (ih h)

lemma closingLine_lt {start i stop : Nat} {d : Depth} {lines : List Line}
    (h : closingLine start i d lines = some stop) : stop < i + lines.length := by
  induction lines generalizing i d with
  | nil => cases h
  | cons line rest ih =>
    unfold closingLine at h
    rw [List.length_cons]
    cases hacross : d.across (i == start) line with
    | none =>
      rw [hacross] at h
      cases h
      omega
    | some d =>
      rw [hacross] at h
      have hlt := ih h
      omega

/-! ### Scopes -/

lemma functionScope_natCast (lines : List Line) (k : Nat) :
    functionScope lines k =
      (findAnchor lines (min k lookback + 1) k).map fun anchor =>
        anchor.bind fun start =>
          (closingLine start start {} ((lines.take (k + lookahead)).drop start)).map
            fun stop => (start, stop) := by
  unfold functionScope
  rw [if_neg (by omega), Int.toNat_natCast]
  dsimp only
  cases findAnchor lines (min k lookback + 1) k with
  | error fault => rfl
  | ok anchor => cases anchor <;> rfl

lemma functionScope_bounds {lines : List Line} {k start stop : Nat}
    (h : functionScope lines k = .ok (some (start, stop))) :
    start ≤ stop ∧ stop < k + lookahead ∧ stop < lines.length := by
  rw [functionScope_natCast] at h
  cases hanchor : findAnchor lines (min k lookback + 1) k with
  | error fault =>
    rw [hanchor] at h
    cases h
  | ok anchor =>
    rw [hanchor] at h
    cases anchor with
    | none => cases h
    | some from_ =>
      cases hclosing : closingLine from_ from_ {} ((lines.take (k + lookahead)).drop from_) with
      | none => simp [Except.map, hclosing] at h
      | some stop' =>
        simp only [Except.map, Option.bind_some, hclosing, Option.map_some, Except.ok.injEq,
          Option.some.injEq, Prod.mk.injEq] at h
        have hle := closingLine_le hclosing
        have hlt := closingLine_lt hclosing
        rw [List.length_drop, List.length_take] at hlt
        omega

/-- The scope of a line is the one in its window, moved to where the window is. -/
theorem functionScope_window (lines : List Line) {k : Nat} (hk : k < lines.length) :
    functionScope lines k =
      (functionScope (window lines k) (windowIndex k)).map
        (Option.map fun scope => (k - windowAbove + scope.1, k - windowAbove + scope.2)) := by
  have hindex : k - windowAbove + windowIndex k = k := by
    unfold windowIndex
    omega
  have hsteps : min (windowIndex k) lookback + 1 = min k lookback + 1 := by
    unfold windowIndex windowAbove
    omega
  have hanchor : findAnchor lines (min k lookback + 1) k =
      (findAnchor (window lines k) (min k lookback + 1) (windowIndex k)).map
        (Option.map (k - windowAbove + ·)) := by
    have hlookahead : 0 < lookahead := by decide
    rw [← findAnchor_take lines (k + lookahead) _ k (by omega)]
    -- A window that starts with the file is a part of it as it stands; others are moved.
    by_cases habove : windowAbove ≤ k
    · have hlength : ((lines.take (k + lookahead)).take (k - windowAbove)).length =
          k - windowAbove := by
        rw [List.length_take, List.length_take]
        omega
      have hmoved := findAnchor_append ((lines.take (k + lookahead)).take (k - windowAbove))
        (window lines k) (min k lookback + 1) (windowIndex k)
        (by unfold window windowIndex; rw [List.length_drop, List.length_take]; omega)
        (by unfold windowIndex windowAbove; unfold windowAbove at habove; omega)
      rw [hlength, window, List.take_append_drop, hindex] at hmoved
      exact hmoved
    · have hzero : k - windowAbove = 0 := by omega
      have hwindow : window lines k = lines.take (k + lookahead) := by
        rw [window, hzero, List.drop_zero]
      rw [hzero, Nat.zero_add] at hindex
      rw [hwindow, hindex, hzero]
      cases findAnchor (lines.take (k + lookahead)) (min k lookback + 1) k with
      | error fault => rfl
      | ok anchor => cases anchor <;> simp [Except.map]
  rw [functionScope_natCast, functionScope_natCast, hsteps, hanchor]
  cases findAnchor (window lines k) (min k lookback + 1) (windowIndex k) with
  | error fault => rfl
  | ok anchor =>
    cases anchor with
    | none => rfl
    | some start =>
      have hbody : (lines.take (k + lookahead)).drop (k - windowAbove + start) =
          ((window lines k).take (windowIndex k + lookahead)).drop start := by
        have hslice := slice_window lines k start (windowIndex k + lookahead) (Nat.le_refl _)
        rw [← hslice, ← Nat.add_assoc, hindex]
      simp only [Except.map, Option.map_some, Option.bind_some, hbody, closingLine_add,
        Option.map_map]
      rfl

/-! ### Handled calls -/

/-- The lines on which a guard counts: those of the function, or a few around a line that is in
none. -/
def guardLines (lines : List Line) (k : Nat) : Option (Nat × Nat) → List Line
  | some (start, stop) => (lines.take (stop + 1)).drop start
  | none => (lines.take (k + (fallbackWindow + 1))).drop (k - fallbackWindow)

lemma range_min_natCast (lines : List Line) (lo hi : Nat) :
    range lines (lo : Int) (min (lines.length : Int) hi) = (lines.take hi).drop lo := by
  have hmin : min (lines.length : Int) hi = ((min hi lines.length : Nat) : Int) := by omega
  rw [hmin, range_natCast, ← List.take_eq_take_min]

lemma isCallHandled_natCast {lines : List Line} {k : Nat} {line : Line}
    (hline : lines[k]? = some line) :
    isCallHandled lines k =
      (functionScope lines k).map fun scope =>
        (guardLines lines k scope).any hasGuard ||
          ((has line ".then(" || has line ".catch(") &&
            chainIsCaught ((lines.take (k + chainLookahead)).drop k)) := by
  have hnone : range lines (max 0 ((k : Int) - (fallbackWindow : Nat)))
      (min (lines.length : Int) (k + (fallbackWindow : Nat) + 1)) =
      guardLines lines k none := by
    have hlo : max 0 ((k : Int) - (fallbackWindow : Nat)) = ((k - fallbackWindow : Nat) : Int) := by
      omega
    have hhi : (k : Int) + (fallbackWindow : Nat) + 1 = ((k + (fallbackWindow + 1) : Nat) : Int) := by
      omega
    rw [hlo, hhi, range_min_natCast]
    rfl
  have hchain : range lines (k : Int) (min (lines.length : Int) (k + (chainLookahead : Nat))) =
      (lines.take (k + chainLookahead)).drop k := by
    have hhi : (k : Int) + (chainLookahead : Nat) = ((k + chainLookahead : Nat) : Int) := by omega
    rw [hhi, range_min_natCast]
  unfold isCallHandled
  rw [lineAt_natCast, hline, hchain]
  cases functionScope lines k with
  | error fault => rfl
  | ok scope =>
    have hguard : (match scope with
        | some (start, stop) => range lines start (stop + 1)
        | none => range lines (max 0 ((k : Int) - (fallbackWindow : Nat)))
          (min (lines.length : Int) (k + (fallbackWindow : Nat) + 1))) =
        guardLines lines k scope := by
      cases scope with
      | none => exact hnone
      | some scope => exact range_natCast lines scope.1 (scope.2 + 1)
    change (if (match scope with
        | some (start, stop) => range lines start (stop + 1)
        | none => range lines (max 0 ((k : Int) - (fallbackWindow : Nat)))
          (min (lines.length : Int) (k + (fallbackWindow : Nat) + 1))).any hasGuard then
          Except.ok true
        else if (has line ".then(" || has line ".catch(") = true then
          .ok (chainIsCaught ((lines.take (k + chainLookahead)).drop k))
        else .ok false) = _
    rw [hguard, Except.map]
    cases (guardLines lines k scope).any hasGuard <;>
      cases (has line ".then(" || has line ".catch(") <;> rfl

/-- Whether the errors of a call are handled is decided in its window. -/
theorem isCallHandled_window (lines : List Line) {k : Nat} (hk : k < lines.length) :
    isCallHandled lines k = isCallHandled (window lines k) (windowIndex k) := by
  have hline : lines[k]? = some lines[k] := List.getElem?_eq_getElem hk
  have hinside : (window lines k)[windowIndex k]? = some lines[k] :=
    (getElem?_window lines k).trans hline
  have hindex : k - windowAbove + windowIndex k = k := by
    unfold windowIndex
    omega
  have hchain : (lines.take (k + chainLookahead)).drop k =
      ((window lines k).take (windowIndex k + chainLookahead)).drop (windowIndex k) := by
    have hslice := slice_window lines k (windowIndex k) (windowIndex k + chainLookahead)
      (by unfold chainLookahead lookahead; omega)
    rw [← hslice, ← Nat.add_assoc, hindex]
  have hguard : ∀ scope, functionScope (window lines k) (windowIndex k) = .ok scope →
      guardLines lines k
          (scope.map fun scope => (k - windowAbove + scope.1, k - windowAbove + scope.2)) =
        guardLines (window lines k) (windowIndex k) scope := by
    intro scope hscope
    cases scope with
    | none =>
      have hslice := slice_window lines k (windowIndex k - fallbackWindow)
        (windowIndex k + (fallbackWindow + 1)) (by unfold fallbackWindow lookahead; omega)
      have hlo : k - windowAbove + (windowIndex k - fallbackWindow) = k - fallbackWindow := by
        unfold windowIndex windowAbove fallbackWindow lookback
        omega
      rw [← Nat.add_assoc, hindex, hlo] at hslice
      exact hslice
    | some scope =>
      have hstop := (functionScope_bounds hscope).2.1
      exact slice_window lines k scope.1 (scope.2 + 1) hstop
  rw [isCallHandled_natCast hline, isCallHandled_natCast hinside, functionScope_window lines hk,
    hchain]
  cases hscope : functionScope (window lines k) (windowIndex k) with
  | error fault => rfl
  | ok scope =>
    simp only [Except.map]
    rw [hguard scope hscope]

/-! ### Lines inside of the file -/

section Inside

variable {lines : List Line} {k : Nat}

lemma lineAt_succeeds (hk : k < lines.length) : Succeeds (lineAt lines k) := by
  rw [lineAt_natCast, List.getElem?_eq_getElem hk]
  exact ok_succeeds _

/-- On the way up from a line of the file there are only lines of the file. -/
lemma findAnchor_succeeds (steps : Nat) (hk : k < lines.length) :
    Succeeds (findAnchor lines steps k) := by
  induction steps generalizing k with
  | zero => exact ok_succeeds none
  | succ steps ih =>
    rw [findAnchor_succ (List.getElem?_eq_getElem hk)]
    exact ite_succeeds (ok_succeeds _) (ite_succeeds (ok_succeeds _) (ih (by omega)))

lemma functionScope_succeeds (hk : k < lines.length) : Succeeds (functionScope lines k) := by
  rw [functionScope_natCast]
  exact map_succeeds _ (findAnchor_succeeds _ hk)

lemma isCallHandled_succeeds (hk : k < lines.length) : Succeeds (isCallHandled lines k) := by
  rw [isCallHandled_natCast (List.getElem?_eq_getElem hk)]
  exact map_succeeds _ (functionScope_succeeds hk)

end Inside

/-- Files that agree in a window agree on what is handled there. -/
lemma window_congr {lines lines' : List Line} {k : Nat}
    (h : ∀ i, k ≤ i + windowAbove → i < k + lookahead → lines[i]? = lines'[i]?) :
    window lines k = window lines' k := by
  unfold window
  apply List.ext_getElem?
  intro i
  simp only [List.getElem?_drop, List.getElem?_take]
  split
  · exact h _ (by omega) (by omega)
  · rfl

/-! ### Windows elsewhere -/

lemma window_eq_of_same {lines lines' : List Line} {i j : Nat} (hi : windowAbove ≤ i)
    (hj : windowAbove ≤ j)
    (hsame : ∀ n < windowAbove + lookahead, lines[i - windowAbove + n]? = lines'[j - windowAbove + n]?) :
    window lines i = window lines' j := by
  unfold window
  apply List.ext_getElem?
  intro n
  simp only [List.getElem?_drop, List.getElem?_take]
  by_cases hn : n < windowAbove + lookahead
  · rw [if_pos (by omega), if_pos (by omega), hsame n hn]
  · rw [if_neg (by omega), if_neg (by omega)]

/-- Two calls with the same 41 lines around them, in whatever files and wherever in them, are handled
alike, and what is taken for their functions lies alike around them. -/
theorem scope_moves_with_window {lines lines' : List Line} {i j : Nat} (hi : 21 ≤ i) (hj : 21 ≤ j)
    (hlength : i + 20 ≤ lines.length) (hlength' : j + 20 ≤ lines'.length)
    (hsame : ∀ n ≤ 40, lines[i - 21 + n]? = lines'[j - 21 + n]?) :
    (∃ handled, isCallHandled lines i = .ok handled ∧ isCallHandled lines' j = .ok handled) ∧
    ((functionScope lines i = .ok none ∧ functionScope lines' j = .ok none) ∨
      ∃ start stop start' stop' : Nat, functionScope lines i = .ok (some (start, stop)) ∧
        functionScope lines' j = .ok (some (start', stop')) ∧
        (start' : Int) - start = j - i ∧ (stop' : Int) - stop = j - i) := by
  have hwindow : window lines i = window lines' j :=
    window_eq_of_same hi hj fun n hn => hsame n (Nat.le_of_lt_succ hn)
  have hindex : windowIndex i = windowIndex j :=
    (Nat.min_eq_right hi).trans (Nat.min_eq_right hj).symm
  have hk : i < lines.length := by omega
  have hk' : j < lines'.length := by omega
  constructor
  · obtain ⟨handled, hhandled⟩ := isCallHandled_succeeds hk
    refine ⟨handled, hhandled, ?_⟩
    rw [isCallHandled_window lines' hk', ← hwindow, ← hindex, ← isCallHandled_window lines hk, hhandled]
  · have hhere := functionScope_window lines hk
    have hthere := functionScope_window lines' hk'
    rw [← hwindow, ← hindex] at hthere
    obtain ⟨scope, hscope⟩ := functionScope_succeeds hk
    cases hinside : functionScope (window lines i) (windowIndex i) with
    | error fault =>
      rw [hscope, hinside] at hhere
      cases hhere
    | ok scope =>
      rw [hinside] at hhere hthere
      cases scope with
      | none => exact .inl ⟨hhere, hthere⟩
      | some scope =>
        have habove : windowAbove = 21 := rfl
        exact .inr ⟨_, _, _, _, hhere, hthere, by omega, by omega⟩

/-- A call in a function, with so many empty lines above and below. -/
def callBetween (above below : Nat) : List Line :=
  List.replicate above [] ++ ["function f() \x7b".toList, "fetch('/x');".toList, "\x7d".toList] ++
    List.replicate below []

theorem scope_moves_with_window_callBetween :
    functionScope (callBetween 30 30) 31 = .ok (some (30, 32)) ∧
      functionScope (callBetween 40 25) 41 = .ok (some (40, 42)) := by
  have hsame : ∀ n ≤ 40, (callBetween 30 30)[31 - 21 + n]? = (callBetween 40 25)[41 - 21 + n]? := by
    decide +kernel
  have hspan : functionScope (callBetween 30 30) 31 = .ok (some (30, 32)) := by decide +kernel
  obtain ⟨-, ⟨hnone, -⟩ | ⟨start, stop, start', stop', hhere, hthere, hstart, hstop⟩⟩ :=
    @scope_moves_with_window (callBetween 30 30) (callBetween 40 25) 31 41 (by decide) (by decide)
      (by decide) (by decide) hsame
  · cases hspan.symm.trans hnone
  · cases hspan.symm.trans hhere
    obtain rfl : start' = 40 := by omega
    obtain rfl : stop' = 42 := by omega
    exact ⟨hspan, hthere⟩

end SlopLint.Scope
