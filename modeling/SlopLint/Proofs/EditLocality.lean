import Mathlib.Tactic.Lemma
import SlopLint.Proofs.FindingOrigins
import SlopLint.Proofs.ScopeWindow

/-!
# Locality of edits

The findings of a rule on a line depend on that line, and on few others: the one above it if the
rule heeds acknowledgments, all above it if it looks for a handler around a log, and a window if
it looks for the handling of a call. So an edit of one line changes the findings only where the
line is read.
-/

namespace SlopLint

open Text

/-- Whether a rule reads line `i` for its findings on line `k`. -/
def Rule.Reads (id : String) (k i : Nat) : Prop :=
  i = k ∨ ((isPermissive id = true ∨ isUnsafe id = true) ∧ i + 1 = k) ∨
    (id = "production_console_log" ∧ i < k) ∨
    (id = "missing_error_handling" ∧ k ≤ i + Scope.windowAbove ∧ i < k + Scope.lookahead)

lemma reads_plain {id : String} {k i : Nat} (hpermissive : Rule.isPermissive id = false)
    (hcast : Rule.isUnsafe id = false) (hlog : id ≠ "production_console_log")
    (hcall : id ≠ "missing_error_handling") : Rule.Reads id k i ↔ i = k := by
  unfold Rule.Reads
  simp [hpermissive, hcast, hlog, hcall]

lemma reads_log {k i : Nat} : Rule.Reads "production_console_log" k i ↔ i ≤ k := by
  have hpermissive : Rule.isPermissive "production_console_log" = false := by decide
  have hcast : Rule.isUnsafe "production_console_log" = false := by decide
  unfold Rule.Reads
  simp [hpermissive, hcast]
  omega

lemma reads_call {k i : Nat} :
    Rule.Reads "missing_error_handling" k i ↔ k ≤ i + 21 ∧ i < k + 20 := by
  have hpermissive : Rule.isPermissive "missing_error_handling" = false := by decide
  have hcast : Rule.isUnsafe "missing_error_handling" = false := by decide
  unfold Rule.Reads Scope.windowAbove Scope.lookback Scope.lookahead
  simp [hpermissive, hcast]
  omega

lemma reads_heeding {id : String} {k i : Nat}
    (h : Rule.isPermissive id = true ∨ Rule.isUnsafe id = true) :
    Rule.Reads id k i ↔ i = k ∨ i + 1 = k := by
  have hlog : id ≠ "production_console_log" := by
    rintro rfl
    exact absurd h (by decide)
  have hcall : id ≠ "missing_error_handling" := by
    rintro rfl
    exact absurd h (by decide)
  unfold Rule.Reads
  simp [h, hlog, hcall]

/-! ### Guarded places -/

lemma isGuarded_congr {lines lines' : List Line} {k : Nat}
    (h : ∀ i ≤ k, lines[i]? = lines'[i]?) (column : Option Int) :
    Scope.isGuarded lines k column = Scope.isGuarded lines' k column := by
  have habove : lines.take k = lines'.take k := by
    apply List.ext_getElem?
    intro i
    rw [List.getElem?_take, List.getElem?_take]
    split
    · exact h i (by omega)
    · rfl
  unfold Scope.isGuarded
  rw [Scope.lineAt_natCast, Scope.lineAt_natCast, h k (Nat.le_refl k), Int.toNat_natCast, habove]

/-! ### Matches that count -/

section Sites

variable {file id : String} {lines lines' : List Line} {k : Nat} {column : Int}

lemma line_congr (h : lines[k]? = lines'[k]?) :
    Site.line ⟨file, lines, k, column⟩ = Site.line ⟨file, lines', k, column⟩ := by
  unfold Site.line
  rw [Scope.lineAt_natCast, Scope.lineAt_natCast, h]

lemma previousLine_congr (h : ∀ i, i + 1 = k → lines[i]? = lines'[i]?) :
    Site.previousLine ⟨file, lines, k, column⟩ = Site.previousLine ⟨file, lines', k, column⟩ := by
  unfold Site.previousLine
  dsimp only
  cases k with
  | zero => rfl
  | succ i =>
    have hback : ((i + 1 : Nat) : Int) - 1 = (i : Nat) := by omega
    rw [hback, Scope.lineAt_natCast, Scope.lineAt_natCast, h i rfl]

lemma isAcknowledged_congr (hline : lines[k]? = lines'[k]?)
    (habove : ∀ i, i + 1 = k → lines[i]? = lines'[i]?) :
    Site.isAcknowledged ⟨file, lines, k, column⟩ =
      Site.isAcknowledged ⟨file, lines', k, column⟩ := by
  unfold Site.isAcknowledged
  rw [line_congr hline, previousLine_congr habove]

lemma isExcused_congr (h : ∀ i, Rule.Reads id k i → lines[i]? = lines'[i]?) :
    Site.isExcused ⟨file, lines, k, column⟩ id = Site.isExcused ⟨file, lines', k, column⟩ id := by
  have hline := @line_congr file lines lines' k column (h k (.inl rfl))
  unfold Site.isExcused Site.excusesLog Site.excusesHedge
  rw [hline]
  by_cases hlog : id = "production_console_log"
  · have habove : ∀ i ≤ k, lines[i]? = lines'[i]? := by
      intro i hi
      rcases Nat.eq_or_lt_of_le hi with heq | hlt
      · exact h i (.inl heq)
      · exact h i (.inr (.inr (.inl ⟨hlog, hlt⟩)))
    dsimp only
    rw [isGuarded_congr habove]
  · simp only [if_neg hlog]

lemma accepts_congr (subject : Subject) (kinds : FileKinds) (quiet : Bool)
    (h : ∀ i, Rule.Reads subject.id k i → lines[i]? = lines'[i]?)
    (hk : k < lines.length) (hk' : k < lines'.length) :
    accepts subject kinds quiet ⟨file, lines, k, column⟩ =
      accepts subject kinds quiet ⟨file, lines', k, column⟩ := by
  have hack : (if (Rule.isPermissive subject.id || Rule.isUnsafe subject.id) = true then
        Site.isAcknowledged ⟨file, lines, k, column⟩ else pure false) =
      (if (Rule.isPermissive subject.id || Rule.isUnsafe subject.id) = true then
        Site.isAcknowledged ⟨file, lines', k, column⟩ else pure false) := by
    by_cases hheeds : (Rule.isPermissive subject.id || Rule.isUnsafe subject.id) = true
    · have habove : ∀ i, i + 1 = k → lines[i]? = lines'[i]? := by
        intro i hi
        exact h i (.inr (.inl ⟨by simpa using hheeds, hi⟩))
      rw [if_pos hheeds, if_pos hheeds, isAcknowledged_congr (h k (.inl rfl)) habove]
    · rw [if_neg hheeds, if_neg hheeds]
  have hhandled : (if subject.id = "missing_error_handling" then
        Scope.isCallHandled lines k else pure false) =
      (if subject.id = "missing_error_handling" then
        Scope.isCallHandled lines' k else pure false) := by
    by_cases hcall : subject.id = "missing_error_handling"
    · have hwindow : Scope.window lines k = Scope.window lines' k := by
        apply Scope.window_congr
        intro i hlo hhi
        exact h i (.inr (.inr (.inr ⟨hcall, hlo, hhi⟩)))
      rw [Scope.isCallHandled_window lines hk, Scope.isCallHandled_window lines' hk', hwindow]
    · rw [if_neg hcall, if_neg hcall]
  unfold accepts
  dsimp only
  rw [isExcused_congr h, hack, hhandled]

end Sites

/-! ### Findings -/

lemma ruleIssues_congr (rule : Rule) (kinds : FileKinds) (quiet : Bool) (file : String)
    {lines lines' : List Line} {k : Nat} (line : Line)
    (h : ∀ i, Rule.Reads rule.id k i → lines[i]? = lines'[i]?)
    (hk : k < lines.length) (hk' : k < lines'.length) :
    Scan.ruleIssues kinds quiet file lines (k + 1 : Nat) line rule =
      Scan.ruleIssues kinds quiet file lines' (k + 1 : Nat) line rule := by
  unfold Scan.ruleIssues
  congr 1
  apply List.filter_congr
  intro found hfound
  obtain ⟨occurrence, _, rfl⟩ := List.mem_map.mp hfound
  have hindex : ((k + 1 : Nat) : Int) - 1 = k := by omega
  unfold Scan.counts Scan.site
  dsimp only
  rw [hindex, accepts_congr rule.subject kinds quiet h hk hk']

/-- The findings of a rule on a line are the same in files that agree on the lines it reads. -/
theorem findingsAt_congr (rule : Rule) (quiet : Bool) (file : String) {content content' : String}
    {k : Nat}
    (h : ∀ i, Rule.Reads rule.id k i →
      (Text.lines content.toList)[i]? = (Text.lines content'.toList)[i]?) :
    Scan.findingsAt quiet file content (.rule rule) k =
      Scan.findingsAt quiet file content' (.rule rule) k := by
  unfold Scan.findingsAt
  rw [← h k (.inl rfl)]
  cases hline : (Text.lines content.toList)[k]? with
  | none => rfl
  | some line =>
    have hk := (List.getElem?_eq_some_iff.mp hline).1
    have hk' := (List.getElem?_eq_some_iff.mp ((h k (.inl rfl)).symm.trans hline)).1
    exact ruleIssues_congr rule (.ofPath file) quiet file line h hk hk'

lemma flatMap_range_ite {α : Type} (f : Nat → List α) (n k : Nat) :
    ((List.range n).flatMap fun i => if i = k then f i else []) = if k < n then f k else [] := by
  induction n with
  | zero => rfl
  | succ n ih =>
    rw [List.range_succ, List.flatMap_append, ih, List.flatMap_singleton]
    rcases Nat.lt_trichotomy k n with hlt | heq | hgt
    · rw [if_pos hlt, if_neg (by omega), if_pos (by omega), List.append_nil]
    · rw [if_neg (by omega), if_pos heq.symm, if_pos (by omega), heq, List.nil_append]
    · rw [if_neg (by omega), if_neg (by omega), if_neg (by omega), List.append_nil]

/-- The findings of a scan on a line are those of the origins there, in their order. -/
lemma filter_line_fileIssues (set : RuleSet) (quiet : Bool) (file content : String) (k : Nat) :
    (Scan.fileIssues set quiet file content).filter
        (fun issue => decide (issue.line = ((k + 1 : Nat) : Int))) =
      set.origins.flatMap fun origin => Scan.findingsAt quiet file content origin k := by
  have hline : ∀ i, (set.origins.flatMap fun origin =>
        Scan.findingsAt quiet file content origin i).filter
          (fun issue => decide (issue.line = ((k + 1 : Nat) : Int))) =
      if i = k then set.origins.flatMap fun origin => Scan.findingsAt quiet file content origin i
      else [] := by
    intro i
    have hplace : ∀ issue ∈ set.origins.flatMap fun origin =>
        Scan.findingsAt quiet file content origin i, issue.line = ((i + 1 : Nat) : Int) := by
      intro issue hissue
      obtain ⟨origin, _, hat⟩ := List.mem_flatMap.mp hissue
      obtain ⟨line, _, hfound⟩ := mem_findingsAt.mp hat
      exact line_of_mem_findings hfound
    split
    · next heq =>
      apply List.filter_eq_self.mpr
      intro issue hissue
      rw [hplace issue hissue, heq, decide_eq_true rfl]
    · next hne =>
      apply List.filter_eq_nil_iff.mpr
      intro issue hissue
      rw [hplace issue hissue, decide_eq_true_eq]
      omega
  rw [fileIssues_eq_findingsAt, List.filter_flatMap, List.flatMap_congr fun i _ => hline i,
    flatMap_range_ite]
  split
  · rfl
  · next hbeyond =>
    symm
    apply List.flatMap_eq_nil_iff.mpr
    intro origin _
    unfold Scan.findingsAt
    rw [List.getElem?_eq_none (by omega)]

/-- An edit of line `j` leaves the findings on another line `k` alone: those about nesting and
those of a rule that reads its own line only, in any case; those of a rule that heeds
acknowledgments, unless the edit is right above; those of the rule about logs, when the edit is
below; and those of the rule about unhandled calls, when the edit is outside of the window. -/
theorem fileIssues_edit_local (set : RuleSet) (quiet : Bool) (file : String)
    {content content' : String} {j k : Nat}
    (hagree : ∀ i, i ≠ j → (Text.lines content.toList)[i]? = (Text.lines content'.toList)[i]?)
    (hk : k ≠ j) :
    (∀ text, (Scan.fileIssues set quiet file text).filter
        (fun issue => decide (issue.line = ((k + 1 : Nat) : Int))) =
      set.origins.flatMap fun origin => Scan.findingsAt quiet file text origin k) ∧
    Scan.findingsAt quiet file content .nesting k =
      Scan.findingsAt quiet file content' .nesting k ∧
    ∀ rule ∈ set.rules,
      (Rule.isPermissive rule.id = false → Rule.isUnsafe rule.id = false →
        rule.id ≠ "production_console_log" → rule.id ≠ "missing_error_handling" →
        Scan.findingsAt quiet file content (.rule rule) k =
          Scan.findingsAt quiet file content' (.rule rule) k) ∧
      (Rule.isPermissive rule.id = true ∨ Rule.isUnsafe rule.id = true → k ≠ j + 1 →
        Scan.findingsAt quiet file content (.rule rule) k =
          Scan.findingsAt quiet file content' (.rule rule) k) ∧
      (rule.id = "production_console_log" → k < j →
        Scan.findingsAt quiet file content (.rule rule) k =
          Scan.findingsAt quiet file content' (.rule rule) k) ∧
      (rule.id = "missing_error_handling" → j + 21 < k ∨ k + 19 < j →
        Scan.findingsAt quiet file content (.rule rule) k =
          Scan.findingsAt quiet file content' (.rule rule) k) := by
  refine ⟨fun text => filter_line_fileIssues set quiet file text k, ?_, ?_⟩
  · unfold Scan.findingsAt
    rw [hagree k hk]
    rfl
  · intro rule _
    have hreads : ¬ Rule.Reads rule.id k j → Scan.findingsAt quiet file content (.rule rule) k =
        Scan.findingsAt quiet file content' (.rule rule) k := by
      intro hunread
      apply findingsAt_congr
      intro i hi
      refine hagree i ?_
      rintro rfl
      exact hunread hi
    refine ⟨?_, ?_, ?_, ?_⟩
    · intro hpermissive hcast hnolog hnocall
      apply hreads
      rw [reads_plain hpermissive hcast hnolog hnocall]
      exact hk.symm
    · intro hheeds hbelow
      apply hreads
      rw [reads_heeding hheeds]
      omega
    · intro hid hbelow
      apply hreads
      rw [hid, reads_log]
      omega
    · intro hid hfar
      apply hreads
      rw [hid, reads_call]
      omega

/-- An edit of the second line leaves the findings on the first one alone, except for those of
the rule about unhandled calls. -/
theorem fileIssues_edit_local_above :
    (∀ i, i ≠ 1 → (Text.lines "x: any\na".toList)[i]? = (Text.lines "x: any\nb".toList)[i]?) ∧
    0 ≠ 1 ∧
    ∀ rule ∈ RuleSet.default.rules, rule.id ≠ "missing_error_handling" →
      Scan.findingsAt false "a.ts" "x: any\na" (.rule rule) 0 =
        Scan.findingsAt false "a.ts" "x: any\nb" (.rule rule) 0 := by
  have hagree : ∀ i, i ≠ 1 →
      (Text.lines "x: any\na".toList)[i]? = (Text.lines "x: any\nb".toList)[i]? := by
    have hlines : Text.lines "x: any\na".toList = ["x: any".toList, "a".toList] := by decide
    have hlines' : Text.lines "x: any\nb".toList = ["x: any".toList, "b".toList] := by decide
    intro i hi
    rw [hlines, hlines']
    match i with
    | 0 => rfl
    | 1 => exact absurd rfl hi
    | i + 2 => rfl
  refine ⟨hagree, by decide, ?_⟩
  -- Whatever else a rule is, the second line is below the first one and not above it.
  intro rule hrule hnocall
  obtain ⟨_, _, hrules⟩ :=
    fileIssues_edit_local RuleSet.default false "a.ts" hagree (by decide : 0 ≠ 1)
  obtain ⟨hplain, hheeding, hlog, _⟩ := hrules rule hrule
  by_cases hheeds : Rule.isPermissive rule.id = true ∨ Rule.isUnsafe rule.id = true
  · exact hheeding hheeds (by decide)
  · by_cases hid : rule.id = "production_console_log"
    · exact hlog hid (by decide)
    · simp only [not_or, Bool.not_eq_true] at hheeds
      exact hplain hheeds.1 hheeds.2 hid hnocall

end SlopLint
