import Std.Data.String.ToInt
import SlopLint.Proofs.ConsolidatedIssues
import SlopLint.Proofs.JoinedTexts
import SlopLint.Proofs.PrintedNumbers

/-!
# Replayed issues

A location tells the line and the column of an issue, whatever integers they are. So an entry can
be expanded to the issues it stands for, and the issues of all entries are the ones that were
consolidated, in the order of their groups. Consolidating them again gives the same entries.
-/

namespace SlopLint

/-! ### Locations -/

/-- The line and the column that a location tells: two integers with a colon between them. -/
def readLocation? (location : String) : Option (Int × Int) :=
  match Text.splitOnChar ':' location.toList with
  | [line, column] => do
    pure (← (String.ofList line).toInt?, ← (String.ofList column).toInt?)
  | _ => none

/-- The colon of a location is the only one, so both numbers are read back. -/
lemma readLocation?_location (issue : Issue) :
    readLocation? issue.location = some (issue.line, issue.column) := by
  have hpieces : Text.splitOnChar ':' issue.location.toList =
      [(toString issue.line).toList, (toString issue.column).toList] := by
    have hjoin : issue.location.toList =
        [':'].intercalate [(toString issue.line).toList, (toString issue.column).toList] := by
      simp [Issue.location, List.intercalate, toString]
    rw [hjoin, Text.splitOnChar_eq_splitOn]
    refine List.splitOn_intercalate _ ?_ (List.cons_ne_nil _ _)
    rw [List.forall_mem_cons, List.forall_mem_singleton]
    exact ⟨not_mem_toString rfl (by decide) _, not_mem_toString rfl (by decide) _⟩
  rw [readLocation?, hpieces]
  simp [Int.toString_eq_repr, Int.toInt?_repr]

/-! ### Expanding entries -/

/-- The issue with the given key at a place. -/
def IssueKey.issueAt (key : IssueKey) (place : Int × Int) : Issue where
  ruleId := key.ruleId
  file := key.file
  line := place.1
  column := place.2
  code := key.code
  message := key.message
  severity := key.severity

/-- The issues that an entry stands for, in the order of its locations. -/
def Consolidated.expand? (entry : Consolidated) : Option (List Issue) :=
  entry.locations.mapM fun location => (readLocation? location).map entry.key.issueAt

/-- The issues that entries stand for, entry by entry. -/
def expand? (entries : List Consolidated) : Option (List Issue) :=
  (entries.mapM Consolidated.expand?).map List.flatten

lemma mapM_eq_some_map {α β : Type} {step : α → Option β} {result : α → β} {values : List α}
    (h : ∀ value ∈ values, step value = some (result value)) :
    values.mapM step = some (values.map result) := by
  induction values with
  | nil => rfl
  | cons value values ih =>
    have hrest := ih fun other hother => h other (by simp [hother])
    rw [List.mapM_cons, h value (by simp), hrest]
    rfl

/-- An issue is made again from its key and its location. -/
lemma issueAt_location (issue : Issue) :
    (readLocation? issue.location).map issue.key.issueAt = some issue := by
  rw [readLocation?_location]
  rfl

/-- The entry of a group stands for the members of the group. -/
lemma expand?_group {key : IssueKey} {members : List Issue}
    (h : ∀ issue ∈ members, issue.key = key) :
    (⟨key, members.map Issue.location⟩ : Consolidated).expand? = some members := by
  have hsteps : ∀ issue ∈ members,
      (readLocation? issue.location).map key.issueAt = some (id issue) := by
    intro issue hissue
    rw [← h issue hissue]
    exact issueAt_location issue
  rw [Consolidated.expand?, List.mapM_map]
  exact (mapM_eq_some_map hsteps).trans (congrArg some (List.map_id members))

/-- What a consolidation stands for are the issues in the order of their groups. -/
lemma expand?_consolidate (issues : List Issue) :
    expand? (consolidate issues) = some ((groupBy Issue.key issues).flatMap Prod.snd) := by
  have hgroups : ∀ group ∈ groupBy Issue.key issues,
      (⟨group.1, group.2.map Issue.location⟩ : Consolidated).expand? = some group.2 :=
    fun group hgroup => expand?_group ((areGroups_groupBy Issue.key issues).key_eq group hgroup)
  rw [expand?, consolidate, List.mapM_map]
  exact congrArg (Option.map List.flatten) (mapM_eq_some_map hgroups)

/-- Entries stand for the issues that were consolidated, in another order, and consolidating these
gives the entries back. -/
theorem consolidate_replays (issues : List Issue) :
    ∃ replayed, expand? (consolidate issues) = some replayed ∧ replayed.Perm issues ∧
      consolidate replayed = consolidate issues := by
  refine ⟨_, expand?_consolidate issues, groupBy_flatMap_perm Issue.key issues, ?_⟩
  unfold consolidate
  rw [groupBy_flatMap_groupBy]

end SlopLint
