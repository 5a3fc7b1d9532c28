import Mathlib.Data.List.Basic
import Mathlib.Tactic.Lemma
import SlopLint.Proofs.GuardedScope

/-!
# Requests for lines

A computation on the lines of a file asks for one line after the other, or for a part of them, and
what it asks for next depends on what it has got. Here it is written as such: indexes are integers,
each loop has its own stop, and a negative index would be answered from the end of the file. Asked in
this way, the questions about scopes have the same answers, and on a line of the file they ask for
lines of the file only.
-/

namespace SlopLint

open Text
open Scope (OutOfRange lineAt)

/-! ### Inquiries -/

/-- What is asked for: the line at an index, or the lines from one index up to another. -/
inductive Request where
  | line (index : Int)
  | part (lo hi : Int)
deriving DecidableEq, Repr

/-- A request that a file with so many lines meets without counting from its end. -/
def Request.Within (count : Nat) : Request → Prop
  | line index => 0 ≤ index ∧ index < count
  | part lo hi => 0 ≤ lo ∧ lo ≤ hi ∧ hi ≤ count

/-- A computation that asks for lines. -/
inductive Inquiry (α : Type) where
  | answer (value : α)
  | readLine (index : Int) (next : Line → Inquiry α)
  | readPart (lo hi : Int) (next : List Line → Inquiry α)

namespace Inquiry

variable {α β : Type}

/-- A computation and what comes after it. -/
def bind : Inquiry α → (α → Inquiry β) → Inquiry β
  | answer value, f => f value
  | readLine index next, f => readLine index fun line => (next line).bind f
  | readPart lo hi next, f => readPart lo hi fun lines => (next lines).bind f

instance : Monad Inquiry where
  pure := answer
  bind := bind

def ask (index : Int) : Inquiry Line := readLine index answer

def askPart (lo hi : Int) : Inquiry (List Line) := readPart lo hi answer

/-- The value of a computation on the lines of a file. -/
def run (lines : List Line) : Inquiry α → Except OutOfRange α
  | answer value => .ok value
  | readLine index next => lineAt lines index >>= fun line => (next line).run lines
  | readPart lo hi next => (next (range lines lo hi)).run lines

/-- What it asks for on its way there. -/
def requests (lines : List Line) : Inquiry α → List Request
  | answer _ => []
  | readLine index next =>
    .line index ::
      match lineAt lines index with
      | .ok line => (next line).requests lines
      | .error _ => []
  | readPart lo hi next => .part lo hi :: (next (range lines lo hi)).requests lines

variable {lines : List Line}

lemma run_bind (p : Inquiry α) (f : α → Inquiry β) :
    (p >>= f).run lines = p.run lines >>= fun value => (f value).run lines := by
  change (p.bind f).run lines = _
  induction p with
  | answer value => rfl
  | readLine index next ih =>
    simp only [bind, run, ih, bind_assoc]
  | readPart lo hi next ih => exact ih _

lemma requests_bind (p : Inquiry α) (f : α → Inquiry β) :
    (p >>= f).requests lines = p.requests lines ++
      match p.run lines with
      | .ok value => (f value).requests lines
      | .error _ => [] := by
  change (p.bind f).requests lines = _
  induction p with
  | answer value => rfl
  | readLine index next ih =>
    simp only [bind, run, requests]
    cases hline : lineAt lines index with
    | error fault => rfl
    | ok line =>
      dsimp only
      rw [ih, List.cons_append]
      rfl
  | readPart lo hi next ih =>
    simp only [bind, run, requests, List.cons_append]
    rw [ih]

/-! ### Computations that follow others -/

/-- A computation has a result on the lines of a file, and if it starts inside of the file it asks for
nothing outside of it. -/
structure Follows (lines : List Line) (inside : Prop) (p : Inquiry α) (result : Except OutOfRange α) :
    Prop where
  run_eq : p.run lines = result
  within : inside → ∀ request ∈ p.requests lines, request.Within lines.length

section Following

variable {inside : Prop} {p : Inquiry α} {f : α → Inquiry β} {g : α → Except OutOfRange β}
  {result : Except OutOfRange α} {next : Except OutOfRange β}

lemma follows_pure (value : α) : Follows lines inside (pure value) (.ok value) :=
  ⟨rfl, fun _ _ h => nomatch h⟩

lemma Follows.bind_error {fault : OutOfRange} (h : Follows lines inside p (.error fault)) :
    Follows lines inside (p >>= f) (.error fault) := by
  constructor
  · rw [run_bind, h.run_eq]
    rfl
  · intro hinside request hrequest
    rw [requests_bind, h.run_eq, List.append_nil] at hrequest
    exact h.within hinside request hrequest

lemma Follows.bind_ok {value : α} (h : Follows lines inside p (.ok value))
    (hnext : Follows lines inside (f value) next) : Follows lines inside (p >>= f) next := by
  constructor
  · rw [run_bind, h.run_eq]
    exact hnext.run_eq
  · intro hinside request hrequest
    rw [requests_bind, h.run_eq, List.mem_append] at hrequest
    rcases hrequest with hrequest | hrequest
    · exact h.within hinside request hrequest
    · exact hnext.within hinside request hrequest

lemma Follows.bind (h : Follows lines inside p result)
    (hnext : ∀ value, Follows lines inside (f value) (g value)) :
    Follows lines inside (p >>= f) (result >>= g) := by
  cases result with
  | error fault => exact h.bind_error
  | ok value => exact h.bind_ok (hnext value)

lemma follows_ite {c : Prop} [Decidable c] {q : Inquiry α} {result' : Except OutOfRange α}
    (hp : Follows lines inside p result) (hq : Follows lines inside q result') :
    Follows lines inside (if c then p else q) (if c then result else result') := by
  split
  · exact hp
  · exact hq

lemma follows_ask {index : Int} (h : inside → 0 ≤ index ∧ index < lines.length) :
    Follows lines inside (ask index) (lineAt lines index) := by
  constructor
  · change lineAt lines index >>= .ok = _
    exact bind_pure _
  · intro hinside request hrequest
    have hrest : (ask index).requests lines = [.line index] := by
      unfold ask
      rw [requests]
      cases lineAt lines index <;> rfl
    rw [hrest] at hrequest
    obtain rfl := List.mem_singleton.mp hrequest
    exact h hinside

lemma follows_askPart {lo hi : Int} (h : inside → 0 ≤ lo ∧ lo ≤ hi ∧ hi ≤ lines.length) :
    Follows lines inside (askPart lo hi) (.ok (range lines lo hi)) := by
  refine ⟨rfl, fun hinside request hrequest => ?_⟩
  obtain rfl := List.mem_singleton.mp hrequest
  exact h hinside

lemma follows_ask_of_get {i : Nat} {line : Line} (hline : lines[i]? = some line) :
    Follows lines inside (ask i) (.ok line) := by
  have hlt := (List.getElem?_eq_some_iff.mp hline).1
  have hfollows : Follows lines inside (ask i) (lineAt lines i) :=
    follows_ask fun _ => ⟨by omega, Int.ofNat_lt.mpr hlt⟩
  rwa [Scope.lineAt_natCast, hline] at hfollows

end Following

end Inquiry

/-! ### Questions about scopes -/

namespace Scope

open Inquiry

/-- The numbers from one downwards, as long as they are above the stop. -/
def downTo (start stop : Int) : List Int :=
  (List.range (start - stop).toNat).map fun n : Nat => start - n

/-- The numbers from one upwards, as long as they are below the stop. -/
def upTo (start stop : Int) : List Int :=
  (List.range (stop - start).toNat).map fun n : Nat => start + n

/-- The first line of some at which a function may start. The line above it is asked for only when
there is one and it matters. -/
def askAnchor : List Int → Inquiry (Option Int)
  | [] => pure none
  | i :: others => do
    let line ← ask i
    if opensFunction line && (has line "\x7b" || has line "=>") then pure (some i)
    else if 0 < i then
      let previous ← ask (i - 1)
      if has (previous ++ line) "=>" && (strip line).head? == some '\x7b' then pure (some i)
      else askAnchor others
    else askAnchor others

/-- The line of some on which the body is closed that opens on the line `start`. -/
def askClosing (start : Int) : Depth → List Int → Inquiry (Option Int)
  | _, [] => pure none
  | d, i :: others => do
    let line ← ask i
    match d.across (i == start) line with
    | none => pure (some i)
    | some d => askClosing start d others

/-- The first and the last line of the function that a line belongs to, in a file of so many. -/
def askFunctionScope (count : Nat) (index : Int) : Inquiry (Option (Int × Int)) := do
  match ← askAnchor (downTo index (max 0 (index - lookback) - 1)) with
  | none => pure none
  | some start =>
    let stop ← askClosing start {} (upTo start (min count (index + lookahead)))
    pure (stop.map fun stop => (start, stop))

/-- The bounds of the lines on which a guard counts. -/
def guardBounds (count : Nat) (index : Int) : Option (Int × Int) → Int × Int
  | none => (max 0 (index - fallbackWindow), min count (index + fallbackWindow + 1))
  | some (start, stop) => (start, stop + 1)

/-- Whether the call on a line has its errors handled. -/
def askIsCallHandled (count : Nat) (index : Int) : Inquiry Bool := do
  let bounds := guardBounds count index (← askFunctionScope count index)
  let window ← askPart bounds.1 bounds.2
  if window.any hasGuard then pure true
  else
    let current ← ask index
    if has current ".then(" || has current ".catch(" then
      let chain ← askPart index (min count (index + chainLookahead))
      pure (chainIsCaught chain)
    else pure false

/-- Whether the first line of some that is not blank ends in a clause for errors. -/
def askClause : List Int → Inquiry Bool
  | [] => pure false
  | j :: others => do
    let line ← ask j
    if !(strip line).isEmpty then pure (catchClause.occursIn (strip line)) else askClause others

/-- Whether a brace on a line opens a block that handles errors; `head` is the text before it. -/
def askOpensCatch (index : Int) (head : List Char) : Inquiry Bool :=
  if catchClause.occursIn (stripRight head) || has head ".catch(" then pure true
  else if !(strip head).isEmpty then pure false
  else askClause (downTo (index - 1) (max (-1) (index - 1 - clauseLookback)))

/-- Goes back over the rest of a line, given in reverse. -/
def askAcross (index : Int) : Retreat → List Char → Inquiry (Option Retreat)
  | b, [] => pure (some b)
  | b, c :: others =>
    if c == '\x7d' then askAcross index { b with depth := b.depth + 1 } others
    else if c == '\x7b' then do
      let opens ← askOpensCatch index others.reverse
      match b.opened opens with
      | none => pure none
      | some b => askAcross index b others
    else askAcross index b others

/-- Whether some lines on the way back guard the place they start at; only the line of the place
itself is cut. -/
def askGuardedFrom (index : Int) (column : Option Int) : Retreat → List Int → Inquiry Bool
  | _, [] => pure false
  | b, i :: others => do
    let line ← ask i
    let line := if i = index then cutAt column line else line
    match ← askAcross i b line.reverse with
    | none => pure true
    | some b => askGuardedFrom index column b others

/-- Whether a place is in code that handles errors, or right behind such code. -/
def askIsGuarded (index : Int) (column : Option Int) : Inquiry Bool :=
  askGuardedFrom index column {} (downTo index (-1))

section Following

variable {lines : List Line} {inside : Prop}

lemma downTo_nil {start stop : Int} (h : start ≤ stop) : downTo start stop = [] := by
  unfold downTo
  rw [Int.toNat_of_nonpos (by omega)]
  rfl

lemma downTo_cons {start stop : Int} (h : stop < start) :
    downTo start stop = start :: downTo (start - 1) stop := by
  have hcount : (start - stop).toNat = (start - 1 - stop).toNat + 1 := by omega
  unfold downTo
  rw [hcount, List.range_succ_eq_map, List.map_cons, List.map_map]
  congr 1
  · simp
  · refine List.map_congr_left fun n _ => ?_
    rw [Function.comp_apply, Nat.succ_eq_add_one]
    omega

lemma upTo_nil {start stop : Int} (h : stop ≤ start) : upTo start stop = [] := by
  unfold upTo
  rw [Int.toNat_of_nonpos (by omega)]
  rfl

lemma upTo_cons {start stop : Int} (h : start < stop) :
    upTo start stop = start :: upTo (start + 1) stop := by
  have hcount : (stop - start).toNat = (stop - (start + 1)).toNat + 1 := by omega
  unfold upTo
  rw [hcount, List.range_succ_eq_map, List.map_cons, List.map_map]
  congr 1
  · simp
  · refine List.map_congr_left fun n _ => ?_
    rw [Function.comp_apply, Nat.succ_eq_add_one]
    omega

/-! ### Functions -/

/-- The anchor of a line is searched for up to the top of the file or of the window. -/
lemma askAnchor_follows (steps i : Nat) (hsteps : steps ≤ i + 1) (hi : inside → i < lines.length) :
    Follows lines inside (askAnchor (downTo i (i - steps)))
      ((findAnchor lines steps i).map (Option.map Nat.cast)) := by
  induction steps generalizing i with
  | zero =>
    rw [downTo_nil (by omega)]
    exact follows_pure none
  | succ steps ih =>
    rw [downTo_cons (by omega), askAnchor]
    cases hline : lines[i]? with
    | none =>
      have hask : Follows lines inside (ask i) (lineAt lines i) :=
        follows_ask fun hinside => ⟨by omega, Int.ofNat_lt.mpr (hi hinside)⟩
      rw [lineAt_natCast, hline] at hask
      rw [findAnchor_succ_none hline]
      exact hask.bind_error
    | some line =>
      refine (follows_ask_of_get hline).bind_ok ?_
      rw [findAnchor_succ hline]
      unfold isAnchor
      cases hopens : opensFunction line && (has line "\x7b" || has line "=>") with
      | true => exact follows_pure _
      | false =>
        cases i with
        | zero =>
          obtain rfl : steps = 0 := by omega
          exact follows_pure none
        | succ j =>
          have hlt := (List.getElem?_eq_some_iff.mp hline).1
          have hprevious : lines[j]? = some lines[j] := List.getElem?_eq_getElem (by omega)
          have hback : ((j + 1 : Nat) : Int) - 1 = j := by omega
          have hstop : ((j + 1 : Nat) : Int) - (steps + 1 : Nat) = j - steps := by omega
          rw [if_neg Bool.false_ne_true, if_pos (show (0 : Int) < (j + 1 : Nat) by omega),
            if_neg (Nat.succ_ne_zero j), if_neg (Nat.succ_ne_zero j), hback, hstop,
            Nat.add_sub_cancel, hprevious, Bool.false_or, Option.any_some]
          refine (follows_ask_of_get hprevious).bind_ok ?_
          cases has (lines[j] ++ line) "=>" && (strip line).head? == some '\x7b' with
          | true => exact follows_pure _
          | false => exact ih j (by omega) fun hinside => Nat.lt_of_succ_lt (hi hinside)

/-- The closing line is searched for up to the stop. -/
lemma askClosing_follows (start i : Nat) {stop : Nat} (hstop : stop ≤ lines.length) (d : Depth) :
    Follows lines inside (askClosing start d (upTo i stop))
      (.ok ((closingLine start i d ((lines.take stop).drop i)).map Nat.cast)) := by
  by_cases hi : i < stop
  · have hline : lines[i]? = some lines[i] := List.getElem?_eq_getElem (by omega)
    have hcut : (lines.take stop).drop i = lines[i] :: (lines.take stop).drop (i + 1) := by
      rw [List.drop_eq_getElem_cons (by rw [List.length_take]; omega), List.getElem_take]
    have hanchor : ((i : Int) == start) = (i == start) := by
      rw [Bool.eq_iff_iff, beq_iff_eq, beq_iff_eq, Int.ofNat_inj]
    rw [upTo_cons (by omega), hcut, askClosing, closingLine]
    refine (follows_ask_of_get hline).bind_ok ?_
    rw [hanchor]
    cases d.across (i == start) lines[i] with
    | none => exact follows_pure _
    | some d => exact askClosing_follows start (i + 1) hstop d
  · have hcut : (lines.take stop).drop i = [] :=
      List.drop_eq_nil_of_le (by rw [List.length_take]; omega)
    rw [upTo_nil (by omega), hcut]
    exact follows_pure none
termination_by stop - i

def scopeBounds (scope : Nat × Nat) : Int × Int := (scope.1, scope.2)

lemma askFunctionScope_follows {index : Int} (hindex : inside → index < lines.length) :
    Follows lines inside (askFunctionScope lines.length index)
      ((functionScope lines index).map (Option.map scopeBounds)) := by
  unfold askFunctionScope
  by_cases hnegative : index < 0
  · rw [downTo_nil (by omega), functionScope, if_pos hnegative]
    exact (follows_pure none).bind_ok (follows_pure none)
  · obtain ⟨k, rfl⟩ := Int.eq_ofNat_of_zero_le (Int.not_lt.mp hnegative)
    have hstop : max 0 ((k : Int) - (lookback : Nat)) - 1 = k - (min k lookback + 1 : Nat) := by
      omega
    have hanchor : Follows lines inside _ _ := askAnchor_follows (min k lookback + 1) k (by omega)
      fun hinside => Int.ofNat_lt.mp (hindex hinside)
    rw [hstop, functionScope_natCast]
    cases hfound : findAnchor lines (min k lookback + 1) k with
    | error fault =>
      rw [hfound] at hanchor
      exact hanchor.bind_error
    | ok anchor =>
      rw [hfound] at hanchor
      refine hanchor.bind_ok ?_
      cases anchor with
      | none => exact follows_pure none
      | some start =>
        have hend : min (lines.length : Int) (k + (lookahead : Nat)) =
            (min (k + lookahead) lines.length : Nat) := by omega
        have hclosing : Follows lines inside _ _ :=
          askClosing_follows start start (Nat.min_le_right (k + lookahead) lines.length) {}
        rw [← List.take_eq_take_min] at hclosing
        change Follows lines inside (askClosing start {} (upTo start _) >>= _) _
        rw [hend]
        refine hclosing.bind_ok ?_
        simp only [Except.map, Option.bind_some]
        cases closingLine start start {} ((lines.take (k + lookahead)).drop start) with
        | none => exact follows_pure none
        | some stop => exact follows_pure (some _)

/-! ### Calls -/

lemma guardBounds_within {index : Int} {scope : Option (Nat × Nat)}
    (hindex : 0 ≤ index ∧ index < lines.length) (hscope : functionScope lines index = .ok scope) :
    let bounds := guardBounds lines.length index (scope.map scopeBounds)
    0 ≤ bounds.1 ∧ bounds.1 ≤ bounds.2 ∧ bounds.2 ≤ lines.length := by
  obtain ⟨k, rfl⟩ := Int.eq_ofNat_of_zero_le hindex.1
  cases scope with
  | none =>
    dsimp only [Option.map_none, guardBounds]
    omega
  | some scope =>
    obtain ⟨start, stop⟩ := scope
    have hbounds := functionScope_bounds hscope
    dsimp only [Option.map_some, guardBounds, scopeBounds]
    omega

lemma askIsCallHandled_follows {index : Int} (hindex : inside → 0 ≤ index ∧ index < lines.length) :
    Follows lines inside (askIsCallHandled lines.length index) (isCallHandled lines index) := by
  have hscope : Follows lines inside _ _ := askFunctionScope_follows fun h => (hindex h).2
  unfold askIsCallHandled isCallHandled
  cases hfound : functionScope lines index with
  | error fault =>
    rw [hfound] at hscope
    exact hscope.bind_error
  | ok scope =>
    rw [hfound] at hscope
    refine hscope.bind_ok ?_
    have hwindow : Follows lines inside _ _ :=
      follows_askPart fun h => guardBounds_within (hindex h) hfound
    refine hwindow.bind_ok ?_
    -- From here on the two differ in how they come to the window only.
    suffices h : ∀ window : List Line, Follows lines inside
        (if window.any hasGuard = true then pure true
        else do
          let current ← ask index
          if (has current ".then(" || has current ".catch(") = true then do
            let chain ← askPart index (min lines.length (index + (chainLookahead : Nat)))
            pure (chainIsCaught chain)
          else pure false)
        (if window.any hasGuard = true then pure true
        else do
          let current ← lineAt lines index
          if (has current ".then(" || has current ".catch(") = true then
            pure (chainIsCaught (range lines index
              (min lines.length (index + (chainLookahead : Nat)))))
          else pure false) by
      cases scope with
      | none => exact h _
      | some scope => exact h _
    intro window
    refine follows_ite (follows_pure true) ((follows_ask hindex).bind fun current => ?_)
    refine follows_ite ?_ (follows_pure false)
    have hchain : Follows lines inside
        (askPart index (min lines.length (index + (chainLookahead : Nat)))) _ :=
      follows_askPart fun h => by have := hindex h; omega
    exact hchain.bind_ok (follows_pure _)

/-! ### Guarded places -/

lemma reverse_take_succ {i : Nat} (hi : i < lines.length) :
    (lines.take (i + 1)).reverse = lines[i] :: (lines.take i).reverse := by
  rw [List.take_succ_eq_append_getElem hi, List.reverse_concat]

/-- The clause above a line is searched for in the nearest of the lines above it. -/
lemma askClause_follows (count i : Nat) (hcount : count ≤ i) (hi : i ≤ lines.length) :
    Follows lines inside (askClause (downTo (i - 1) (i - 1 - count)))
      (.ok (match ((lines.take i).reverse.take count).find? fun line => !(strip line).isEmpty with
        | some line => catchClause.occursIn (strip line)
        | none => false)) := by
  induction count generalizing i with
  | zero =>
    rw [downTo_nil (by omega)]
    exact follows_pure false
  | succ count ih =>
    obtain ⟨j, rfl⟩ := Nat.exists_eq_add_one_of_ne_zero (by omega : i ≠ 0)
    have hline : lines[j]? = some lines[j] := List.getElem?_eq_getElem (by omega)
    have hstart : ((j + 1 : Nat) : Int) - 1 = j := by omega
    have hstop : (j : Int) - (count + 1 : Nat) = j - 1 - count := by omega
    rw [hstart, downTo_cons (by omega), hstop, reverse_take_succ hi, List.take_succ_cons,
      List.find?_cons, askClause]
    refine (follows_ask_of_get hline).bind_ok ?_
    cases !(strip lines[j]).isEmpty with
    | true => exact follows_pure _
    | false => exact ih j (by omega) (by omega)

lemma askOpensCatch_follows {i : Nat} (hi : i ≤ lines.length) (head : List Char) :
    Follows lines inside (askOpensCatch i head) (.ok (opensCatch (lines.take i).reverse head)) := by
  have hstop : max (-1) ((i : Int) - 1 - (clauseLookback : Nat)) =
      i - 1 - (min clauseLookback i : Nat) := by omega
  have hclause : Follows lines inside _ _ :=
    askClause_follows (min clauseLookback i) i (Nat.min_le_right _ _) hi
  have hlength : (lines.take i).reverse.length = i := by
    rw [List.length_reverse, List.length_take, Nat.min_eq_left hi]
  have habove := @List.take_eq_take_min _ (lines.take i).reverse clauseLookback
  rw [hlength] at habove
  rw [← hstop, ← habove] at hclause
  unfold askOpensCatch opensCatch
  split
  · exact follows_pure true
  · split
    · exact follows_pure false
    · exact hclause

lemma askAcross_follows {i : Nat} (hi : i ≤ lines.length) (b : Retreat) (text : List Char) :
    Follows lines inside (askAcross i b text) (.ok (b.across (lines.take i).reverse text)) := by
  induction text generalizing b with
  | nil => exact follows_pure (some b)
  | cons c text ih =>
    by_cases hopening : c = '\x7b'
    · subst hopening
      rw [across_opened, askAcross, if_neg (by decide), if_pos (by decide)]
      refine (askOpensCatch_follows hi text.reverse).bind_ok ?_
      cases b.opened (opensCatch (lines.take i).reverse text.reverse) with
      | none => exact follows_pure none
      | some b => exact ih b
    · have hother : ¬ (c == '\x7b') = true := by simpa using hopening
      rw [askAcross, Retreat.across]
      by_cases hclosing : (c == '\x7d') = true
      · rw [if_pos hclosing, if_pos hclosing]
        exact ih _
      · rw [if_neg hclosing, if_neg hclosing, if_neg hother, if_neg hother]
        exact ih b

/-- Above the line of the place nothing is cut. -/
lemma askGuardedFrom_follows {k : Nat} (column : Option Int) (b : Retreat) (i : Nat) (hi : i ≤ k)
    (hlines : i ≤ lines.length) :
    Follows lines inside (askGuardedFrom k column b (downTo (i - 1) (-1)))
      (.ok (guardedFrom b (lines.take i).reverse)) := by
  induction i generalizing b with
  | zero =>
    rw [downTo_nil (by omega)]
    exact follows_pure false
  | succ i ih =>
    have hline : lines[i]? = some lines[i] := List.getElem?_eq_getElem (by omega)
    have hstart : ((i + 1 : Nat) : Int) - 1 = i := by omega
    rw [hstart, downTo_cons (by omega), reverse_take_succ hlines, askGuardedFrom, guardedFrom]
    refine (follows_ask_of_get hline).bind_ok ?_
    rw [if_neg (by omega)]
    refine (askAcross_follows (by omega) b lines[i].reverse).bind_ok ?_
    cases b.across (lines.take i).reverse lines[i].reverse with
    | none => exact follows_pure true
    | some b => exact ih b (by omega) (by omega)

lemma askIsGuarded_follows {index : Int} (hindex : inside → index < lines.length)
    (column : Option Int) :
    Follows lines inside (askIsGuarded index column) (isGuarded lines index column) := by
  unfold askIsGuarded
  by_cases hnegative : index < 0
  · rw [downTo_nil (by omega), isGuarded, if_pos hnegative]
    exact follows_pure false
  · obtain ⟨k, rfl⟩ := Int.eq_ofNat_of_zero_le (Int.not_lt.mp hnegative)
    rw [downTo_cons (by omega), askGuardedFrom]
    cases hline : lines[k]? with
    | none =>
      have hask : Follows lines inside (ask k) (lineAt lines k) :=
        follows_ask fun hinside => ⟨by omega, hindex hinside⟩
      rw [lineAt_natCast, hline] at hask
      rw [isGuarded, if_neg hnegative, lineAt_natCast, hline]
      exact hask.bind_error
    | some line =>
      have hlength := (List.getElem?_eq_some_iff.mp hline).1
      rw [isGuarded_natCast hline, guardedFrom]
      refine (follows_ask_of_get hline).bind_ok ?_
      rw [if_pos rfl]
      refine (askAcross_follows (by omega) {} (cutAt column line).reverse).bind_ok ?_
      cases Retreat.across (lines.take k).reverse {} (cutAt column line).reverse with
      | none => exact follows_pure true
      | some b => exact askGuardedFrom_follows column b k (Nat.le_refl k) (by omega)

end Following

end Scope

end SlopLint
