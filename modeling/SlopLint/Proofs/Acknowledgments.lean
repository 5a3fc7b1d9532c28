import Mathlib.Data.List.Flatten
import SlopLint.Proofs.EditLocality
import SlopLint.Proofs.QuietScan
import SlopLint.Proofs.TrailingComments

/-!
# Acknowledgments

A comment behind a line can acknowledge what the rules about types find on the next one. Their
findings are gone then, and those of all other rules stay. One rule can find more: the rule about
logs spares an error that is logged in a clause, and a brace at the start of a line belongs no more
to a clause that ended the line above when a comment stands behind it.
-/

namespace SlopLint

open Text

/-- Whether acknowledgments count for a rule. -/
def Rule.heeds (id : String) : Bool :=
  isPermissive id || isUnsafe id

namespace Acknowledgment

/-- The words that acknowledge what is found on the next line. -/
def markers : List String := ["eslint-disable-next-line", "@ts-expect-error", "@ts-ignore"]

/-- The comment with such a word. -/
def comment (marker : String) : Line :=
  " // ".toList ++ marker.toList

/-- Whether a line logs an error, and starts with the brace of a clause that ends above it. The
lines above are given with the nearest one first. -/
def unsettles (above : List Line) (line : Line) : Bool :=
  has (strip line) "console.error(" && (strip line).head? == some '\x7b' &&
    Scope.opensCatch above []

/-- What becomes of the findings on a line when the line above acknowledges them. -/
structure Hides (unsettled : Bool) (before after : List Issue) : Prop where
  kept : (before.filter fun issue => !Rule.heeds issue.ruleId).Sublist after
  others : (after.filter fun issue => issue.ruleId != "production_console_log") =
    (before.filter fun issue => !Rule.heeds issue.ruleId).filter fun issue =>
      issue.ruleId != "production_console_log"
  exact : unsettled = false → after = before.filter fun issue => !Rule.heeds issue.ruleId

section Hides

variable {unsettled : Bool} {before after : List Issue}

/-- Findings for which acknowledgments do not count may stay as they are. -/
lemma Hides.same (h : ∀ issue ∈ before, Rule.heeds issue.ruleId = false) :
    Hides unsettled before before := by
  have hkept : (before.filter fun issue => !Rule.heeds issue.ruleId) = before :=
    List.filter_eq_self.mpr fun issue hissue => by rw [h issue hissue, Bool.not_false]
  exact ⟨by rw [hkept], by rw [hkept], fun _ => hkept.symm⟩

/-- Findings for which they count are hidden. -/
lemma Hides.all (h : ∀ issue ∈ before, Rule.heeds issue.ruleId = true) :
    Hides unsettled before [] := by
  have hkept : (before.filter fun issue => !Rule.heeds issue.ruleId) = [] :=
    List.filter_eq_nil_iff.mpr fun issue hissue => by simp [h issue hissue]
  exact ⟨by rw [hkept], by rw [hkept], fun _ => hkept.symm⟩

/-- Findings of logs stay. -/
lemma Hides.logs (hsub : before.Sublist after)
    (h : ∀ issue ∈ after, issue.ruleId = "production_console_log")
    (hsettled : unsettled = false → after = before) : Hides unsettled before after := by
  have hheeds : Rule.heeds "production_console_log" = false := by decide
  have hkept : (before.filter fun issue => !Rule.heeds issue.ruleId) = before :=
    List.filter_eq_self.mpr fun issue hissue => by
      rw [h issue (hsub.subset hissue), hheeds, Bool.not_false]
  have hlogs : ∀ issues : List Issue, issues ⊆ after →
      (issues.filter fun issue => issue.ruleId != "production_console_log") = [] :=
    fun issues hissues => List.filter_eq_nil_iff.mpr fun issue hissue => by
      simp [h issue (hissues hissue)]
  refine ⟨by rwa [hkept], ?_, fun hfalse => by rw [hkept, hsettled hfalse]⟩
  rw [hkept, hlogs after (List.Subset.refl _), hlogs before hsub.subset]

/-- What is hidden of the findings of each origin is hidden of all. -/
lemma Hides.flatMap {origins : List Origin} {before after : Origin → List Issue}
    (h : ∀ origin ∈ origins, Hides unsettled (before origin) (after origin)) :
    Hides unsettled (origins.flatMap before) (origins.flatMap after) where
  kept := by
    rw [List.filter_flatMap]
    exact .flatMap_right origins fun origin horigin => (h origin horigin).kept
  others := by
    rw [List.filter_flatMap, List.filter_flatMap, List.filter_flatMap]
    exact List.flatMap_congr fun origin horigin => (h origin horigin).others
  exact := fun hsettled => by
    rw [List.filter_flatMap]
    exact List.flatMap_congr fun origin horigin => (h origin horigin).exact hsettled

end Hides

/-! ### Comments -/

lemma inert_comment {marker : String} (h : marker ∈ markers) : Scope.Inert (comment marker) := by
  have habsent : ∀ marker ∈ markers, ∀ landmark ∈ Scope.landmarks,
      has (comment marker) landmark = false := by
    decide +kernel
  have hseamless : ∀ marker ∈ markers, ∀ landmark ∈ Scope.landmarks,
      Seamless landmark.toList (comment marker) := by
    decide +kernel
  have hunbraced : ∀ marker ∈ markers, '\x7b' ∉ comment marker ∧ '\x7d' ∉ comment marker := by
    decide
  have hends : ∀ marker ∈ markers, (comment marker).getLast? = some 'e' ∨
      (comment marker).getLast? = some 'r' := by
    decide
  refine ⟨habsent marker h, hseamless marker h, fun c hc => ?_, fun hclause => ?_⟩
  · obtain ⟨hopen, hclose⟩ := hunbraced marker h
    exact ⟨fun heq => hopen (heq ▸ hc), fun heq => hclose (heq ▸ hc)⟩
  · rcases hends marker h with hend | hend
    · exact absurd (hclause 'e' hend) (by decide)
    · exact absurd (hclause 'r' hend) (by decide)

end Acknowledgment

open Acknowledgment

/-- A place on the line right below another one. -/
def Site.under (file : String) (above : List Line) (line next : Line) (below : List Line)
    (column : Int) : Site :=
  ⟨file, above ++ line :: next :: below, (above.length + 1 : Nat), column⟩

/-! ### Exceptions below a comment -/

section Sites

variable (file : String) (above : List Line) (line next : Line) (below : List Line) (column : Int)

lemma getElem?_under : (above ++ line :: next :: below)[above.length + 1]? = some next := by
  rw [List.getElem?_append_right (by omega), Nat.add_sub_cancel_left]
  rfl

lemma line_under : (Site.under file above line next below column).line = .ok next := by
  unfold Site.line Site.under
  rw [Scope.lineAt_natCast, getElem?_under]

lemma previousLine_under :
    (Site.under file above line next below column).previousLine = .ok line := by
  have hback : ((above.length + 1 : Nat) : Int) - 1 = (above.length : Nat) := by omega
  unfold Site.previousLine Site.under
  dsimp only
  rw [if_pos (by omega), hback, Scope.lineAt_natCast, List.getElem?_append_right (Nat.le_refl _),
    Nat.sub_self]
  rfl

/-- Everything on the line below the comment is acknowledged. -/
lemma isAcknowledged_under {marker : String} (h : marker ∈ markers) :
    (Site.under file above (line ++ comment marker) next below column).isAcknowledged =
      .ok true := by
  have hmarked : hasAny (line ++ comment marker) markers = true := by
    refine List.any_eq_true.mpr ⟨marker, h, occursIn_iff.mpr ?_⟩
    exact ⟨line ++ " // ".toList, [], by simp [comment]⟩
  unfold Site.isAcknowledged
  rw [line_under, previousLine_under]
  simp only [bind, Except.bind, pure, Except.pure]
  split
  · rfl
  · exact congrArg Except.ok hmarked

lemma isCallHandled_under {comment : Line} (h : Scope.Inert comment) :
    Scope.isCallHandled (above ++ (line ++ comment) :: next :: below) (above.length + 1 : Nat) =
      Scope.isCallHandled (above ++ line :: next :: below) (above.length + 1 : Nat) := by
  have hsame : ∀ lines : List Line, List.Forall₂ (Scope.Trailed comment) lines lines := fun lines =>
    List.forall₂_same.mpr fun _ _ => .inl rfl
  refine Scope.isCallHandled_trailed h ?_ (getElem?_under above line next below) ?_
  · exact List.rel_append (hsame above) (.cons (.inr rfl) (hsame (next :: below)))
  · rw [List.drop_length_add_append, List.drop_length_add_append]
    rfl

/-- When a log is excused. -/
lemma excusesLog_under :
    (Site.under file above line next below column).excusesLog =
      .ok ((has (strip next) "console.error(" && Scope.guardedFrom {}
          (next.take (column - 1).toNat :: line :: above.reverse)) ||
        (has (strip next) "console.log(" && hasAny (strip next) ["debug", "Debug"]) ||
        (hasAny (strip next) ["console.log(", "console.info("] &&
          hasAny (strip next) ["error", "Error"])) := by
  have htake : ((above ++ line :: next :: below).take (above.length + 1)).reverse =
      line :: above.reverse := by
    rw [List.take_length_add_append, List.take_succ_cons, List.take_zero, List.reverse_append]
    rfl
  have hguarded : Scope.isGuarded (above ++ line :: next :: below) (above.length + 1 : Nat)
      (some column) =
        .ok (Scope.guardedFrom {} (next.take (column - 1).toNat :: line :: above.reverse)) := by
    unfold Scope.isGuarded
    rw [if_neg (by omega), Scope.lineAt_natCast, getElem?_under, Int.toNat_natCast, htake]
    rfl
  unfold Site.excusesLog
  rw [line_under]
  unfold Site.under
  rw [hguarded]
  simp only [bind, Except.bind, pure, Except.pure]
  cases has (strip next) "console.error(" with
  | false => rw [if_neg Bool.false_ne_true, Bool.false_and]
  | true => rw [if_pos rfl, Bool.true_and]

/-- Exceptions other than the one for logs look at the line alone. -/
lemma isExcused_under {id : String} (hid : id ≠ "production_console_log") (line' : Line) :
    (Site.under file above line' next below column).isExcused id =
      (Site.under file above line next below column).isExcused id := by
  have hfile : (Site.under file above line' next below column).file =
      (Site.under file above line next below column).file := rfl
  unfold Site.isExcused Site.excusesHedge
  rw [line_under, line_under, hfile]
  simp only [if_neg hid]

lemma isExcused_log (site : Site) : site.isExcused "production_console_log" = site.excusesLog := rfl

/-- What is not excused is not excused below the comment. -/
lemma unexcused_under {id : String} {comment : Line} (h : Scope.Inert comment)
    (hfree : (Site.under file above line next below column).isExcused id = .ok false) :
    (Site.under file above (line ++ comment) next below column).isExcused id = .ok false := by
  by_cases hid : id = "production_console_log"
  · subst hid
    rw [isExcused_log, excusesLog_under, Except.ok.injEq, Bool.or_eq_false_iff,
      Bool.or_eq_false_iff, Bool.and_eq_false_imp] at hfree ⊢
    obtain ⟨⟨hguarded, hdebug⟩, herror⟩ := hfree
    exact ⟨⟨fun hlogs => Scope.guardedFrom_trailed h (hguarded hlogs), hdebug⟩, herror⟩
  · rw [isExcused_under _ _ line _ _ _ hid]
    exact hfree

/-- It is excused just as it was, unless it is a log and its line is unsettled. -/
lemma isExcused_under_comment {id : String} {comment : Line} (h : Scope.Inert comment)
    (hsettled : id = "production_console_log" → unsettles (line :: above.reverse) next = false) :
    (Site.under file above (line ++ comment) next below column).isExcused id =
      (Site.under file above line next below column).isExcused id := by
  by_cases hid : id = "production_console_log"
  · have hstays := hsettled hid
    rw [hid, isExcused_log, isExcused_log, excusesLog_under, excusesLog_under]
    cases hlogs : has (strip next) "console.error(" with
    | false => rw [Bool.false_and, Bool.false_and]
    | true =>
      have hlone : Scope.firstSign (next.take (column - 1).toNat) = some '\x7b' →
          Scope.opensCatch (line :: above.reverse) [] = false := by
        intro hbrace
        have hstarts : Scope.firstSign next = some '\x7b' :=
          (List.take_prefix _ _).find?_eq_some hbrace
        unfold unsettles at hstays
        rw [hlogs, Scope.head?_strip, hstarts, beq_self_eq_true, Bool.true_and,
          Bool.true_and] at hstays
        exact hstays
      rw [Scope.guardedFrom_trailed_eq h hlone]
  · exact isExcused_under _ _ line _ _ _ hid _

end Sites

/-! ### Matches that count below a comment -/

section Matches

variable {subject : Subject} {kinds : FileKinds} {quiet : Bool} {file : String}
  {above below : List Line} {line next comment : Line} {column : Int}

/-- A match for which acknowledgments do not count is accepted where nothing else covers it. -/
lemma Accepted.moved {site site' : Site} (h : Accepted subject kinds quiet site)
    (hheeds : Rule.heeds subject.id = false) (hfile : site'.file = site.file)
    (hexcused : site'.isExcused subject.id = .ok false)
    (hhandled : subject.id = "missing_error_handling" →
      Scope.isCallHandled site'.lines site'.index = .ok false) :
    Accepted subject kinds quiet site' where
  tests := h.tests
  mocks := h.mocks
  declarations := fun hpermissive => hfile ▸ h.declarations hpermissive
  unacknowledged := fun hacknowledges => by
    unfold Rule.heeds at hheeds
    obtain ⟨hpermissive, hcast⟩ := Bool.or_eq_false_iff.mp hheeds
    rw [hpermissive, hcast] at hacknowledges
    cases hacknowledges <;> contradiction
  unexcused := hexcused
  unhandled := hhandled
  loud := h.loud

/-- Where acknowledgments count, the comment covers every match. -/
lemma not_accepted_under {marker : String} (h : marker ∈ markers)
    (hheeds : Rule.heeds subject.id = true) :
    ¬ Accepted subject kinds quiet
      (Site.under file above (line ++ Acknowledgment.comment marker) next below column) := by
  intro haccepted
  have hopen := haccepted.unacknowledged (by simpa [Rule.heeds] using hheeds)
  rw [isAcknowledged_under _ _ _ _ _ _ h] at hopen
  cases hopen

/-- Where they do not, a match that counts counts below the comment. -/
lemma accepted_under (h : Scope.Inert comment) (hheeds : Rule.heeds subject.id = false)
    (haccepted : Accepted subject kinds quiet (Site.under file above line next below column)) :
    Accepted subject kinds quiet (Site.under file above (line ++ comment) next below column) := by
  refine haccepted.moved hheeds rfl ?_ fun hcall => ?_
  · exact unexcused_under file above line next below column h haccepted.unexcused
  · exact (isCallHandled_under above line next below h).trans (haccepted.unhandled hcall)

/-- No other match counts there, unless it is a log and its line is unsettled. -/
lemma accepted_of_under (h : Scope.Inert comment) (hheeds : Rule.heeds subject.id = false)
    (hsettled : subject.id = "production_console_log" →
      unsettles (line :: above.reverse) next = false)
    (haccepted :
      Accepted subject kinds quiet (Site.under file above (line ++ comment) next below column)) :
    Accepted subject kinds quiet (Site.under file above line next below column) := by
  refine haccepted.moved hheeds rfl ?_ fun hcall => ?_
  · rw [← isExcused_under_comment file above line next below column h hsettled]
    exact haccepted.unexcused
  · exact (isCallHandled_under above line next below h).symm.trans (haccepted.unhandled hcall)

end Matches

/-! ### Findings below a comment -/

/-- The findings of an origin on the line right below another one. -/
def Origin.findingsUnder (quiet : Bool) (file : String) (above : List Line) (line next : Line)
    (below : List Line) (origin : Origin) : List Issue :=
  origin.findings quiet file (above ++ line :: next :: below) (above.length + 1 + 1 : Nat) next

section Findings

variable (quiet : Bool) (file : String) (above : List Line) (line next : Line) (below : List Line)

lemma counts_under {rule : Rule} {column : Int} {text : String} :
    Scan.counts rule (.ofPath file) quiet (above ++ line :: next :: below)
        ⟨file, (above.length + 1 + 1 : Nat), column, text, rule.id⟩ = true ↔
      Accepted rule.subject (.ofPath file) quiet
        (Site.under file above line next below column) := by
  have hindex : ((above.length + 1 + 1 : Nat) : Int) - 1 = (above.length + 1 : Nat) := by omega
  rw [counts_eq_true_iff]
  unfold Scan.site Site.under
  dsimp only
  rw [hindex]

/-- A rule that accepts more finds more. -/
lemma findingsUnder_sublist {rule : Rule} {line line' : Line}
    (h : ∀ column,
      Accepted rule.subject (.ofPath file) quiet (Site.under file above line next below column) →
        Accepted rule.subject (.ofPath file) quiet (Site.under file above line' next below column)) :
    ((Origin.rule rule).findingsUnder quiet file above line next below).Sublist
      ((Origin.rule rule).findingsUnder quiet file above line' next below) := by
  unfold Origin.findingsUnder Origin.findings Scan.ruleIssues Scan.ruleMatches
  dsimp only
  rw [List.filter_map, List.filter_map]
  refine ((List.monotone_filter_right _ fun occurrence => ?_).map _).map _
  rw [Function.comp_apply, Function.comp_apply, counts_under, counts_under]
  exact h _

/-- The comment hides what a rule finds for which acknowledgments count. -/
lemma findingsUnder_eq_nil {rule : Rule} {marker : String} (h : marker ∈ markers)
    (hheeds : Rule.heeds rule.id = true) :
    (Origin.rule rule).findingsUnder quiet file above (line ++ comment marker) next below = [] := by
  unfold Origin.findingsUnder Origin.findings Scan.ruleIssues Scan.ruleMatches
  dsimp only
  rw [List.filter_map, List.map_eq_nil_iff, List.map_eq_nil_iff, List.filter_eq_nil_iff]
  intro occurrence _
  rw [Function.comp_apply, counts_under]
  exact not_accepted_under h hheeds

/-- What the comment hides of the findings of an origin. -/
lemma hides_findingsUnder {marker : String} (h : marker ∈ markers) (origin : Origin) :
    Hides (unsettles (line :: above.reverse) next)
      (origin.findingsUnder quiet file above line next below)
      (origin.findingsUnder quiet file above (line ++ comment marker) next below) := by
  have hinert := inert_comment h
  have hids : ∀ line, ∀ issue ∈ origin.findingsUnder quiet file above line next below,
      issue.ruleId = origin.ruleId := fun line issue hissue => ruleId_of_mem_findings hissue
  cases origin with
  | nesting =>
    refine .same fun issue hissue => ?_
    rw [hids line issue hissue]
    decide
  | rule rule =>
    cases hheeds : Rule.heeds rule.id with
    | true =>
      rw [findingsUnder_eq_nil quiet file above line next below h hheeds]
      refine .all fun issue hissue => ?_
      rw [hids line issue hissue]
      exact hheeds
    | false =>
      have hsub := findingsUnder_sublist quiet file above next below fun column =>
        @accepted_under rule.subject _ quiet file above below line next _ column hinert hheeds
      have hback : (rule.id = "production_console_log" →
          unsettles (line :: above.reverse) next = false) →
          (Origin.rule rule).findingsUnder quiet file above (line ++ comment marker) next below =
            (Origin.rule rule).findingsUnder quiet file above line next below := by
        intro hsettled
        refine List.Sublist.antisymm ?_ hsub
        exact findingsUnder_sublist quiet file above next below fun column =>
          accepted_of_under hinert hheeds hsettled
      by_cases hid : rule.id = "production_console_log"
      · refine .logs hsub (fun issue hissue => ?_) fun hsettled => hback fun _ => hsettled
        rw [hids _ issue hissue]
        exact hid
      · rw [hback fun hlog => absurd hlog hid]
        refine .same fun issue hissue => ?_
        rw [hids line issue hissue]
        exact hheeds

end Findings

/-! ### Files with a comment -/

/-- The findings of a scan on the line at a position of a file, counted from zero. -/
def Scan.issuesOn (set : RuleSet) (quiet : Bool) (file : String) (lines : List Line) (k : Nat) :
    List Issue :=
  (Scan.fileIssues set quiet file (joinLines lines)).filter fun issue =>
    decide (issue.line = ((k + 1 : Nat) : Int))

section Files

variable {set : RuleSet} {quiet : Bool} {file : String}

lemma issuesOn_eq_nil {lines : List Line} {k : Nat}
    (hlines : Text.lines (joinLines lines).toList = lines) (hbeyond : lines[k]? = none) :
    Scan.issuesOn set quiet file lines k = [] := by
  unfold Scan.issuesOn
  rw [filter_line_fileIssues]
  refine List.flatMap_eq_nil_iff.mpr fun origin _ => ?_
  unfold Scan.findingsAt
  rw [hlines, hbeyond]

lemma issuesOn_under {above below : List Line} {line next : Line}
    (hlines : Text.lines (joinLines (above ++ line :: next :: below)).toList =
      above ++ line :: next :: below) :
    Scan.issuesOn set quiet file (above ++ line :: next :: below) (above.length + 1) =
      set.origins.flatMap (Origin.findingsUnder quiet file above line next below) := by
  unfold Scan.issuesOn
  rw [filter_line_fileIssues]
  refine List.flatMap_congr fun origin _ => ?_
  unfold Scan.findingsAt Origin.findingsUnder
  rw [hlines, getElem?_under]

/-- A comment that acknowledges the next line hides what the rules about types find there and keeps
everything else. What it can add is a log, when the next line logs an error and starts with the
brace of a clause that ends above. -/
theorem comment_hides_type_findings (set : RuleSet) (quiet : Bool) (file : String)
    {above below : List Line} {line : Line} {marker : String}
    (hlines : ∀ entry ∈ above ++ line :: below, '\n' ∉ entry ∧ '\r' ∉ entry)
    (hmarker : marker ∈ markers) :
    Hides (below.head?.any (unsettles (line :: above.reverse)))
      (Scan.issuesOn set quiet file (above ++ line :: below) (above.length + 1))
      (Scan.issuesOn set quiet file (above ++ (line ++ comment marker) :: below)
        (above.length + 1)) := by
  have hread := lines_joinLines (by simp : above ++ line :: below ≠ []) hlines
  have hread' : Text.lines (joinLines (above ++ (line ++ comment marker) :: below)).toList =
      above ++ (line ++ comment marker) :: below := by
    have hcomment : ∀ marker ∈ markers, '\n' ∉ comment marker ∧ '\r' ∉ comment marker := by decide
    refine lines_joinLines (by simp) fun entry hentry => ?_
    rcases List.mem_append.mp hentry with habove | hrest
    · exact hlines entry (List.mem_append_left _ habove)
    · rcases List.mem_cons.mp hrest with rfl | hbelow
      · have hline := hlines line (by simp)
        rw [List.mem_append, List.mem_append, not_or, not_or]
        exact ⟨⟨hline.1, (hcomment marker hmarker).1⟩, hline.2, (hcomment marker hmarker).2⟩
      · exact hlines entry (by simp [hbelow])
  cases below with
  | nil =>
    rw [issuesOn_eq_nil hread (by simp), issuesOn_eq_nil hread' (by simp)]
    exact .all fun issue hissue => absurd hissue List.not_mem_nil
  | cons next below =>
    rw [issuesOn_under hread, issuesOn_under hread']
    exact .flatMap fun origin _ =>
      hides_findingsUnder quiet file above line next below hmarker origin

end Files

/-- A rule about types and the one about logs. -/
def pairedRules : RuleSet :=
  ⟨[Rule.Builtin.anyTypeUsage, Rule.Builtin.productionConsoleLog]⟩

/-- Both rules find something on the second line, and the first is silenced. -/
theorem comment_hides_type_findings_paired :
    (∀ entry ∈ [] ++ "f();".toList :: ["g(x: any, console.log(x));".toList],
      '\n' ∉ entry ∧ '\r' ∉ entry) ∧
    "@ts-ignore" ∈ markers ∧
    (Scan.issuesOn pairedRules false "a.ts"
        ["f();".toList, "g(x: any, console.log(x));".toList] 1).map (·.ruleId) =
      ["any_type_usage", "production_console_log"] ∧
    (Scan.issuesOn pairedRules false "a.ts"
        ["f();".toList ++ comment "@ts-ignore", "g(x: any, console.log(x));".toList] 1).map
          (·.ruleId) = ["production_console_log"] := by
  have hlines : ∀ entry ∈ [] ++ "f();".toList :: ["g(x: any, console.log(x));".toList],
      '\n' ∉ entry ∧ '\r' ∉ entry := by decide
  have hmarker : "@ts-ignore" ∈ markers := by decide
  have hsettled : (["g(x: any, console.log(x));".toList].head?.any
      (unsettles ("f();".toList :: [].reverse))) = false := by decide
  have hbefore : (Scan.issuesOn pairedRules false "a.ts"
      ["f();".toList, "g(x: any, console.log(x));".toList] 1).map (·.ruleId) =
        ["any_type_usage", "production_console_log"] := by
    decide +kernel
  have hhides := comment_hides_type_findings pairedRules false "a.ts" hlines hmarker
  have hafter := hhides.exact hsettled
  have hkept : (["any_type_usage", "production_console_log"].filter fun id => !Rule.heeds id) =
      ["production_console_log"] := by decide
  refine ⟨hlines, hmarker, hbefore, ?_⟩
  rw [List.nil_append, List.nil_append, List.length_nil, Nat.zero_add] at hafter
  rw [hafter, ← hkept, ← hbefore, List.filter_map]
  rfl

/-- A clause ends no line that a comment ends, so the brace below it opens nothing that handles
errors. -/
theorem comment_uncovers_log :
    ∃ set, RuleSet.build [] [] = .ok set ∧
      Scan.issuesOn set false "a.ts"
          ["try \x7b f(); \x7d catch (e)".toList ++ comment "@ts-ignore",
            "\x7b console.error(e); \x7d".toList] 1 ≠
        (Scan.issuesOn set false "a.ts"
          ["try \x7b f(); \x7d catch (e)".toList, "\x7b console.error(e); \x7d".toList] 1).filter
            fun issue => !Rule.heeds issue.ruleId := by
  have hread : ∀ line ∈ ["try \x7b f(); \x7d catch (e)".toList ++ comment "@ts-ignore",
      "try \x7b f(); \x7d catch (e)".toList],
      Text.lines (joinLines [line, "\x7b console.error(e); \x7d".toList]).toList =
        [line, "\x7b console.error(e); \x7d".toList] := by
    decide
  have hfound : (Origin.rule Rule.Builtin.productionConsoleLog).findingsUnder false "a.ts" []
      ("try \x7b f(); \x7d catch (e)".toList ++ comment "@ts-ignore")
      "\x7b console.error(e); \x7d".toList [] ≠ [] := by
    decide +kernel
  have hspared : (Origin.rule Rule.Builtin.productionConsoleLog).findingsUnder false "a.ts" []
      "try \x7b f(); \x7d catch (e)".toList "\x7b console.error(e); \x7d".toList [] = [] := by
    decide +kernel
  have honly : ∀ rule ∈ Rule.builtin, rule.id = "production_console_log" →
      rule = Rule.Builtin.productionConsoleLog := by
    decide +kernel
  have hlog : Rule.Builtin.productionConsoleLog ∈ Rule.builtin := by
    decide +kernel
  have hissues : ∀ line ∈ ["try \x7b f(); \x7d catch (e)".toList ++ comment "@ts-ignore",
      "try \x7b f(); \x7d catch (e)".toList],
      Scan.issuesOn RuleSet.default false "a.ts" [line, "\x7b console.error(e); \x7d".toList] 1 =
        RuleSet.default.origins.flatMap (Origin.findingsUnder false "a.ts" [] line
          "\x7b console.error(e); \x7d".toList []) := fun line hline =>
    @issuesOn_under RuleSet.default false "a.ts" [] [] line _ (hread line hline)
  have hbuild : RuleSet.build [] [] = .ok RuleSet.default := by
    rw [build_nil, override_nil, RuleSet.extended, List.map_nil, List.append_nil]
    rfl
  refine ⟨_, hbuild, fun heq => ?_⟩
  rw [hissues _ List.mem_cons_self, hissues _ (List.mem_cons_of_mem _ List.mem_cons_self)] at heq
  obtain ⟨issue, hissue⟩ := List.exists_mem_of_ne_nil _ hfound
  have hkept := heq ▸ List.mem_flatMap.mpr ⟨_, rule_mem_origins.mpr hlog, hissue⟩
  obtain ⟨origin, horigin, hother⟩ := List.mem_flatMap.mp (List.mem_filter.mp hkept).1
  -- Before, the same rule would have found it.
  have hid := (ruleId_of_mem_findings hother).symm.trans (ruleId_of_mem_findings hissue)
  cases origin with
  | nesting => exact absurd hid (by decide)
  | rule rule =>
    obtain rfl := honly rule (rule_mem_origins.mp horigin) hid
    rw [hspared] at hother
    cases hother

end SlopLint
