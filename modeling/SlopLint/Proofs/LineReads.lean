import Mathlib.Tactic.Lemma
import SlopLint.Proofs.JudgedMatches
import SlopLint.Proofs.LineRequests

/-!
# What a scan reads

Before a match counts, lines around it are read for exceptions: its own line, the one above, the
function it is in, the chain of its call and the block that guards it. Asking for them one after the
other gives the issues of the scan, and every request is for lines that the file has: none fails, and
none is answered from the other end of the file.
-/

namespace SlopLint

open Text
open Inquiry (ask Follows follows_pure follows_ite follows_ask)

/-- The place of a match in a file of which only the number of lines is at hand. -/
structure Spot where
  file : String
  count : Nat
  index : Int
  column : Int

namespace Spot

/-- The place without the lines. -/
def ofSite (site : Site) : Spot :=
  ⟨site.file, site.lines.length, site.index, site.column⟩

def askLine (spot : Spot) : Inquiry Line :=
  ask spot.index

/-- The line above it; above the first line nothing is asked for. -/
def askPreviousLine (spot : Spot) : Inquiry Line :=
  if 0 < spot.index then ask (spot.index - 1) else pure []

/-- An acknowledgment on the line, or on the line above for the next one. -/
def askIsAcknowledged (spot : Spot) : Inquiry Bool := do
  let line ← spot.askLine
  if hasAny line ["eslint-disable", "@ts-expect-error", "@ts-ignore"] then pure true
  else
    let above ← spot.askPreviousLine
    pure (hasAny above ["eslint-disable-next-line", "@ts-expect-error", "@ts-ignore"])

/-- A log in code that handles errors, or one that says what it is for. -/
def askExcusesLog (spot : Spot) : Inquiry Bool := do
  let line := strip (← spot.askLine)
  let guarded ←
    if has line "console.error(" then Scope.askIsGuarded spot.index (some spot.column)
    else pure false
  pure (guarded ||
    (has line "console.log(" && hasAny line ["debug", "Debug"]) ||
    (hasAny line ["console.log(", "console.info("] && hasAny line ["error", "Error"]))

/-- A hedge in a file that speaks of tests, or a comment that says what should work. -/
def askExcusesHedge (spot : Spot) : Inquiry Bool := do
  if FileKind.looksLikeTest spot.file then pure true
  else
    let line := lowerText (strip (← spot.askLine))
    pure (has line "should work" && hasAny line ["//", "/*", "*/"])

/-- The exception that the rule with this id makes. -/
def askIsExcused (spot : Spot) (id : String) : Inquiry Bool :=
  if id = "any_type_usage" then do pure (Site.excusesAnyType (← spot.askLine))
  else if id = "function_param_any_type" then do pure (Site.excusesAnyParameter (← spot.askLine))
  else if id = "unsafe_double_type_assertion" then do pure (has (← spot.askLine) "as unknown as")
  else if id = "production_console_log" then spot.askExcusesLog
  else if id = "hedging_uncertainty_comment" ∨ id = "assumption_comment" then spot.askExcusesHedge
  else if id = "unsafe_type_assertion" then pure (FileKind.looksLikeTest spot.file)
  else pure false

end Spot

/-- Whether a match counts. -/
def askAccepts (subject : Subject) (kinds : FileKinds) (quiet : Bool) (spot : Spot) :
    Inquiry Bool := do
  let permissive := Rule.isPermissive subject.id
  if (subject.skipInTests && kinds.isTest) || (subject.skipInMocks && kinds.isMock) then
    pure false
  else if permissive && FileKind.isDeclaration spot.file then pure false
  else if ← (if permissive || Rule.isUnsafe subject.id then
      spot.askIsAcknowledged else pure false) then
    pure false
  else if ← spot.askIsExcused subject.id then pure false
  else if ← (if subject.id = "missing_error_handling" then
      Scope.askIsCallHandled spot.count spot.index else pure false) then
    pure false
  else if quiet && subject.id != "production_console_log" && kinds.isTest then pure false
  else pure true

section Exceptions

variable {inside : Prop} {site : Site}
  (hindex : inside → 0 ≤ site.index ∧ site.index < site.lines.length)
include hindex

lemma askLine_follows : Follows site.lines inside (Spot.ofSite site).askLine site.line :=
  follows_ask hindex

lemma askPreviousLine_follows :
    Follows site.lines inside (Spot.ofSite site).askPreviousLine site.previousLine := by
  change Follows site.lines inside (if 0 < site.index then ask (site.index - 1) else pure [])
    (if 0 < site.index then Scope.lineAt site.lines (site.index - 1) else .ok [])
  by_cases habove : 0 < site.index
  · rw [if_pos habove, if_pos habove]
    exact follows_ask fun h => by have := hindex h; omega
  · rw [if_neg habove, if_neg habove]
    exact follows_pure []

lemma askIsAcknowledged_follows :
    Follows site.lines inside (Spot.ofSite site).askIsAcknowledged site.isAcknowledged := by
  refine (askLine_follows hindex).bind fun line => follows_ite (follows_pure true) ?_
  exact (askPreviousLine_follows hindex).bind fun above => follows_pure _

lemma askExcusesLog_follows :
    Follows site.lines inside (Spot.ofSite site).askExcusesLog site.excusesLog := by
  refine (askLine_follows hindex).bind fun line => follows_ite ?_ ?_
  · exact (Scope.askIsGuarded_follows (fun h => (hindex h).2) _).bind fun _ => follows_pure _
  · exact (follows_pure false).bind fun _ => follows_pure _

lemma askExcusesHedge_follows :
    Follows site.lines inside (Spot.ofSite site).askExcusesHedge site.excusesHedge :=
  follows_ite (follows_pure true) ((askLine_follows hindex).bind fun _ => follows_pure _)

lemma askIsExcused_follows (id : String) :
    Follows site.lines inside ((Spot.ofSite site).askIsExcused id) (site.isExcused id) := by
  have hline (f : Line → Bool) : Follows site.lines inside
      (do pure (f (← (Spot.ofSite site).askLine))) (do pure (f (← site.line))) :=
    (askLine_follows hindex).bind fun _ => follows_pure _
  unfold Spot.askIsExcused Site.isExcused
  refine follows_ite (hline _) (follows_ite (hline _) (follows_ite (hline _) ?_))
  refine follows_ite (askExcusesLog_follows hindex) ?_
  refine follows_ite (askExcusesHedge_follows hindex) ?_
  exact follows_ite (follows_pure _) (follows_pure false)

/-- Whether a match counts is asked for line by line. -/
theorem askAccepts_follows (subject : Subject) (kinds : FileKinds) (quiet : Bool) :
    Follows site.lines inside (askAccepts subject kinds quiet (.ofSite site))
      (accepts subject kinds quiet site) := by
  unfold askAccepts accepts
  refine follows_ite (follows_pure false) (follows_ite (follows_pure false) ?_)
  refine Follows.bind (follows_ite (askIsAcknowledged_follows hindex) (follows_pure false))
    fun _ => ?_
  refine follows_ite (follows_pure false) ?_
  refine (askIsExcused_follows hindex subject.id).bind fun _ => follows_ite (follows_pure false) ?_
  refine Follows.bind (follows_ite (Scope.askIsCallHandled_follows hindex) (follows_pure false))
    fun _ => ?_
  refine follows_ite (follows_pure false) ?_
  exact follows_ite (follows_pure false) (follows_pure true)

end Exceptions

/-! ### The scan of a file -/

namespace Scan

/-- Goes over the members of a list and gathers what each of them gives. -/
def gather {α β : Type} (f : α → Inquiry (List β)) : List α → Inquiry (List β)
  | [] => pure []
  | a :: others => do
    let found ← f a
    let rest ← gather f others
    pure (found ++ rest)

def askRuleIssues (kinds : FileKinds) (quiet : Bool) (file : String) (count : Nat) (number : Int)
    (line : Line) (rule : Rule) : Inquiry (List Issue) :=
  (ruleMatches file number line rule) |> gather fun found => do
    let counted ← askAccepts rule.subject kinds quiet
      ⟨found.file, count, found.line - 1, found.column⟩
    pure (if counted then [toIssue rule found] else [])

def askLineIssues (set : RuleSet) (quiet : Bool) (file : String) (count : Nat) (number : Int)
    (line : Line) : Inquiry (List Issue) := do
  let issues ← gather (askRuleIssues (.ofPath file) quiet file count number line) set.rules
  pure (issues ++ Nesting.issues file number line)

def askFile (set : RuleSet) (quiet : Bool) (file content : String) : Inquiry (List Issue) :=
  let lines := Text.lines content.toList
  lines.zipIdx |> gather fun (line, i) =>
    askLineIssues set quiet file lines.length (i + 1 : Nat) line

section Scanning

variable {lines : List Line} {inside : Prop}

/-- What is gathered over a list is what its members give, one after the other. -/
lemma gather_follows {α β : Type} {f : α → Inquiry (List β)} {g : α → List β} {members : List α}
    (h : ∀ a ∈ members, Follows lines inside (f a) (.ok (g a))) :
    Follows lines inside (gather f members) (.ok (members.flatMap g)) := by
  induction members with
  | nil => exact follows_pure []
  | cons a others ih =>
    obtain ⟨ha, hothers⟩ := List.forall_mem_cons.mp h
    rw [List.flatMap_cons]
    exact ha.bind_ok ((ih hothers).bind_ok (follows_pure _))

lemma ruleIssues_eq_flatMap (kinds : FileKinds) (quiet : Bool) (file : String) (number : Int)
    (line : Line) (rule : Rule) : ruleIssues kinds quiet file lines number line rule =
      (ruleMatches file number line rule).flatMap fun found =>
        if counts rule kinds quiet lines found then [toIssue rule found] else [] := by
  unfold ruleIssues
  induction ruleMatches file number line rule with
  | nil => rfl
  | cons found others ih =>
    rw [List.filter_cons, List.flatMap_cons, ← ih]
    split <;> rfl

lemma askRuleIssues_follows {k : Nat} (hk : k < lines.length) (kinds : FileKinds) (quiet : Bool)
    (file : String) (line : Line) (rule : Rule) :
    Follows lines inside (askRuleIssues kinds quiet file lines.length (k + 1 : Nat) line rule)
      (.ok (ruleIssues kinds quiet file lines (k + 1 : Nat) line rule)) := by
  rw [ruleIssues_eq_flatMap]
  refine gather_follows fun found hfound => ?_
  obtain ⟨occurrence, -, rfl⟩ := List.mem_map.mp hfound
  have hindex : ((k + 1 : Nat) : Int) - 1 = k := by omega
  have hinside : inside → (0 : Int) ≤ k ∧ (k : Int) < lines.length :=
    fun _ => ⟨by omega, Int.ofNat_lt.mpr hk⟩
  have haccepts : Follows lines inside _ _ := @askAccepts_follows inside
    ⟨file, lines, k, occurrence.start + 1⟩ hinside rule.subject kinds quiet
  obtain ⟨counted, hcounted⟩ := @accepts_succeeds file lines k (occurrence.start + 1) rule.subject
    kinds quiet hk
  rw [hcounted] at haccepts
  unfold counts site
  dsimp only
  rw [hindex, hcounted]
  exact haccepts.bind_ok (follows_pure _)

lemma askLineIssues_follows {k : Nat} (hk : k < lines.length) (set : RuleSet) (quiet : Bool)
    (file : String) (line : Line) :
    Follows lines inside (askLineIssues set quiet file lines.length (k + 1 : Nat) line)
      (.ok (lineIssues set quiet file lines (k + 1 : Nat) line)) := by
  have hrules : Follows lines inside _ _ :=
    gather_follows fun rule (_ : rule ∈ set.rules) =>
      askRuleIssues_follows hk (.ofPath file) quiet file line rule
  exact hrules.bind_ok (follows_pure _)

end Scanning

/-- Asking for one line after the other, a match is judged as it is with all lines at hand, wherever
it stands. So a scan comes to its issues without fail, and all that it asks for is there: no index is
beyond the last line, and none is negative. -/
theorem fileIssues_reads_within (set : RuleSet) (quiet : Bool) (file content : String) :
    (∀ (subject : Subject) (kinds : FileKinds) (site : Site),
      (askAccepts subject kinds quiet (.ofSite site)).run site.lines =
        accepts subject kinds quiet site) ∧
    (askFile set quiet file content).run (Text.lines content.toList) =
      .ok (fileIssues set quiet file content) ∧
    ∀ request ∈ (askFile set quiet file content).requests (Text.lines content.toList),
      request.Within (Text.lines content.toList).length := by
  have hfile : Follows (Text.lines content.toList) True (askFile set quiet file content)
      (.ok (fileIssues set quiet file content)) := by
    refine gather_follows fun (line, i) hline => ?_
    have hi := (List.getElem?_eq_some_iff.mp (List.mem_zipIdx_iff_getElem?.mp hline)).1
    exact askLineIssues_follows hi set quiet file line
  refine ⟨fun subject kinds site => ?_, hfile.run_eq, hfile.within trivial⟩
  have houtside : False → 0 ≤ site.index ∧ site.index < site.lines.length := False.elim
  exact (askAccepts_follows houtside subject kinds quiet).run_eq

/-- On the first line, a call asks for nothing above it. -/
example : (Scope.askIsCallHandled 2 0).requests ["fetch(a)".toList, "  .then(f);".toList] =
    [.line 0, .part 0 2, .line 0] := by
  decide +kernel

end Scan

end SlopLint
