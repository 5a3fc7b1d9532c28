import SlopLint.Proofs.ReadSettings
import SlopLint.Proofs.RuleSets

/-!
# Rules built from settings

Whatever settings are read, their rules can be built but for one reason: an id that is taken, by a
built-in rule or by an earlier rule of the settings, and the first such rule is told. The rules that
are built are the built-in ones and those of the settings, each with the severity set for its id and
else as it was.
-/

namespace SlopLint

open Settings (Sound patternFlags)

/-- The rule at a place has one of the ids that were taken before, or that of an earlier rule. -/
def TakenAt (taken : List String) (custom : List CustomRule) (i : Nat) : Prop :=
  ∃ own, custom[i]? = some own ∧
    (own.id ∈ taken ∨ ∃ earlier ∈ custom.take i, earlier.id = own.id)

/-- A fault that tells the first rule whose id is taken, by its place and its id. -/
structure TellsFirstTaken (custom : List CustomRule) (i : Nat) (own : CustomRule)
    (fault : Settings.Fault) : Prop where
  rule : custom[i]? = some own
  taken : TakenAt RuleSet.default.ids custom i
  least : ∀ j < i, ¬ TakenAt RuleSet.default.ids custom j
  rejected : fault = .rejected (.duplicateRule i own.id)
  message : fault.message =
    s!"customPatterns[{i}] (id={Text.literal own.id}).id: duplicates an existing rule id"

/-- A rule that differs from a plain one in its severity alone, and only if one is set for its
id. -/
structure Overrides (overrides : List (String × Severity)) (plain rule : Rule) : Prop where
  severity : rule.severity = (overrides.lookup plain.id).getD plain.severity
  others : rule = { plain with severity := rule.severity }

/-- The rule that a rule of the user's own stands for: a text that is left out or empty is no
description. -/
structure StandsFor [Pattern.Platform] (own : CustomRule) (rule : Rule) : Prop where
  id : rule.id = own.id
  pattern : Pattern.read patternFlags own.pattern.source = .ok rule.pattern
  message : rule.message = own.message
  severity : rule.severity = own.severity
  description : ∀ text, own.description = some text → text ≠ "" → rule.description = text
  fallback : own.description = none ∨ own.description = some "" → rule.description = own.message
  fix : rule.fix = own.fix
  learnMore : rule.learnMore = own.learnMore
  tests : rule.skipInTests = false
  mocks : rule.skipInMocks = false

/-- A set that is built from rules of the user's own and severities. -/
structure BuiltFrom [Pattern.Platform] (custom : List CustomRule)
    (overrides : List (String × Severity))
    (set : RuleSet) : Prop where
  ids : set.ids = RuleSet.default.ids ++ custom.map CustomRule.id
  distinct : set.ids.Nodup
  rules : ∃ base own, set.rules = base ++ own ∧
    List.Forall₂ (Overrides overrides) Rule.builtin base ∧
    List.Forall₂ (fun c rule => ∃ plain, StandsFor c plain ∧ Overrides overrides plain rule)
      custom own
  heedless : ∀ others : List (String × Severity),
    (∀ id ∈ set.ids, others.lookup id = overrides.lookup id) →
      RuleSet.build custom others = .ok set

/-! ### The first id that is taken -/

lemma takenAt_zero {taken : List String} {rule : CustomRule} {rules : List CustomRule} :
    TakenAt taken (rule :: rules) 0 ↔ rule.id ∈ taken := by
  simp [TakenAt]

/-- Behind a rule its id is one of those that were taken before. -/
lemma takenAt_succ {taken : List String} {rule : CustomRule} {rules : List CustomRule} {i : Nat} :
    TakenAt taken (rule :: rules) (i + 1) ↔ TakenAt (rule.id :: taken) rules i := by
  simp only [TakenAt, List.getElem?_cons_succ, List.take_succ_cons, List.mem_cons,
    exists_eq_or_imp, eq_comm (b := rule.id)]
  refine exists_congr fun own => and_congr_right fun _ => ?_
  tauto

lemma not_takenAt_of_duplicate? {taken : List String} {index : Nat} {custom : List CustomRule}
    (h : RuleSet.duplicate? taken index custom = none) (i : Nat) : ¬ TakenAt taken custom i := by
  induction custom generalizing taken index i with
  | nil => simp [TakenAt]
  | cons rule rules ih =>
    unfold RuleSet.duplicate? at h
    split at h
    · cases h
    · next hfresh =>
      cases i with
      | zero =>
        rw [takenAt_zero]
        simpa using hfresh
      | succ i =>
        rw [takenAt_succ]
        exact ih h i

/-- The search tells the first rule whose id is taken. -/
lemma takenAt_of_duplicate? {taken : List String} {index n : Nat} {custom : List CustomRule}
    {id : String} (h : RuleSet.duplicate? taken index custom = some (n, id)) :
    ∃ i own, n = index + i ∧ custom[i]? = some own ∧ own.id = id ∧ TakenAt taken custom i ∧
      ∀ j < i, ¬ TakenAt taken custom j := by
  induction custom generalizing taken index with
  | nil => cases h
  | cons rule rules ih =>
    unfold RuleSet.duplicate? at h
    split at h
    · next htaken =>
      cases h
      exact ⟨0, rule, rfl, rfl, rfl, takenAt_zero.mpr (by simpa using htaken),
        fun j hj => absurd hj (Nat.not_lt_zero j)⟩
    · next hfresh =>
      obtain ⟨i, own, hn, hown, hid, htaken, hleast⟩ := ih h
      refine ⟨i + 1, own, by omega, hown, hid, takenAt_succ.mpr htaken, ?_⟩
      intro j hj
      cases j with
      | zero =>
        rw [takenAt_zero]
        simpa using hfresh
      | succ j =>
        rw [takenAt_succ]
        exact hleast j (by omega)

lemma duplicateRule_message (i : Nat) (id : String) :
    (Settings.Fault.rejected (.duplicateRule i id)).message =
      s!"customPatterns[{i}] (id={Text.literal id}).id: duplicates an existing rule id" := by
  have hentry : Settings.pathText [.name "customPatterns", .index i] = s!"customPatterns[{i}]" := by
    rw [← String.toList_inj]
    simp [Settings.pathText, toString]
  have hfield : Settings.pathText [.name "id"] = "id" := rfl
  unfold Settings.Fault.message Settings.Rejection.message Settings.Location.text
  dsimp only
  rw [hentry, hfield, Text.valueLiteral, if_neg (by decide), ← String.toList_inj]
  simp [toString]

/-- Building is refused for the first rule whose id is taken. -/
lemma tellsFirstTaken_of_build {custom : List CustomRule} {overrides : List (String × Severity)}
    {fault : Settings.Fault} (h : RuleSet.build custom overrides = .error fault) :
    ∃ i own, TellsFirstTaken custom i own fault := by
  unfold RuleSet.build RuleSet.extend at h
  cases hduplicate : RuleSet.duplicate? RuleSet.default.ids 0 custom with
  | none =>
    rw [hduplicate] at h
    cases h
  | some place =>
    rw [hduplicate] at h
    cases h
    obtain ⟨i, own, hplace, hown, hid, htaken, hleast⟩ := takenAt_of_duplicate? hduplicate
    refine ⟨i, own, hown, htaken, hleast, ?_, ?_⟩
    · rw [hplace, hid, Nat.zero_add]
    · rw [hplace, hid, Nat.zero_add, duplicateRule_message]

/-- No id is taken in a list of rules that is built. -/
lemma not_takenAt_of_build {custom : List CustomRule} {overrides : List (String × Severity)}
    {set : RuleSet} (h : RuleSet.build custom overrides = .ok set) (i : Nat) :
    ¬ TakenAt RuleSet.default.ids custom i := by
  have hduplicate := (duplicate?_eq_none_iff _ 0 _).mpr (build_eq_ok_iff.mp h).1
  exact not_takenAt_of_duplicate? hduplicate i

/-! ### The rules of a set -/

lemma overrides_overrideRule (overrides : List (String × Severity)) (rule : Rule) :
    Overrides overrides rule (RuleSet.overrideRule overrides rule) :=
  ⟨rfl, rfl⟩

/-- A rule is overridden by what is set for its id, and by nothing else. -/
lemma overrideRule_congr {overrides others : List (String × Severity)} {rule : Rule}
    (h : others.lookup rule.id = overrides.lookup rule.id) :
    RuleSet.overrideRule others rule = RuleSet.overrideRule overrides rule := by
  rw [RuleSet.overrideRule, h, RuleSet.overrideRule]

lemma standsFor_ofCustom [Pattern.Platform] {own : CustomRule} (h : Sound own) :
    StandsFor own (RuleSet.ofCustom own) where
  id := rfl
  pattern := h.pattern
  message := rfl
  severity := rfl
  description := by
    intro text htext hne
    simp [RuleSet.ofCustom, htext, hne]
  fallback := by
    rintro (hnone | hempty)
    · simp [RuleSet.ofCustom, hnone]
    · simp [RuleSet.ofCustom, hempty]
  fix := rfl
  learnMore := rfl
  tests := rfl
  mocks := rfl

/-- A set that is built from sound rules holds what they stand for. -/
lemma builtFrom_of_build [Pattern.Platform] {custom : List CustomRule}
    {overrides : List (String × Severity)}
    {set : RuleSet} (hsound : ∀ own ∈ custom, Sound own)
    (h : RuleSet.build custom overrides = .ok set) : BuiltFrom custom overrides set := by
  obtain ⟨hfresh, rfl⟩ := build_eq_ok_iff.mp h
  constructor
  · rw [ids_override]
    simp [RuleSet.extended, RuleSet.ids, RuleSet.default, RuleSet.ofCustom]
  · exact nodup_ids_of_build h
  · refine ⟨_, _, List.map_append, ?_, ?_⟩
    · rw [List.forall₂_map_right_iff, List.forall₂_same]
      exact fun rule _ => overrides_overrideRule overrides rule
    · rw [List.map_map, List.forall₂_map_right_iff, List.forall₂_same]
      exact fun own hown =>
        ⟨_, standsFor_ofCustom (hsound own hown), overrides_overrideRule overrides _⟩
  · intro others hothers
    refine build_eq_ok_iff.mpr ⟨hfresh, ?_⟩
    rw [ids_override] at hothers
    refine congrArg RuleSet.mk (List.map_congr_left fun rule hrule => ?_)
    exact (overrideRule_congr (hothers _ (List.mem_map_of_mem hrule))).symm

/-- The rules of settings that are read are built, unless an id is taken, and the first rule whose
id is taken is told. -/
theorem ofSettings_built_or_refused [Pattern.Platform] {value : Json} {settings : Settings}
    (h : Settings.ofJson value = .ok settings) :
    ((∃ fault, RuleSet.ofSettings settings = .error fault) ↔
      ∃ i, TakenAt RuleSet.default.ids settings.customRules i) ∧
    (∀ fault, RuleSet.ofSettings settings = .error fault →
      ∃ i own, TellsFirstTaken settings.customRules i own fault) ∧
    (∀ set, RuleSet.ofSettings settings = .ok set →
      BuiltFrom settings.customRules settings.severityOverrides set) := by
  obtain ⟨members, _, hmembers⟩ := Settings.ofJson_eq_ok_iff.mp h
  refine ⟨⟨?_, ?_⟩, ?_, ?_⟩
  · rintro ⟨fault, hfault⟩
    obtain ⟨i, _, hfirst⟩ := tellsFirstTaken_of_build hfault
    exact ⟨i, hfirst.taken⟩
  · rintro ⟨i, htaken⟩
    cases hset : RuleSet.ofSettings settings with
    | error fault => exact ⟨fault, rfl⟩
    | ok set => exact absurd htaken (not_takenAt_of_build hset i)
  · exact fun fault hfault => tellsFirstTaken_of_build hfault
  · exact fun set hset =>
      builtFrom_of_build (fun own hown => Settings.sound_of_mem hmembers hown) hset

/-- Settings with two rules of one id. -/
def twinSettings : Json :=
  let rule (pattern : String) : Json :=
    .object [("id", .string "x"), ("pattern", .string pattern), ("message", .string "m"),
      ("severity", .string "low")]
  .object [("customPatterns", .array [rule "a", rule "b"])]

theorem ofSettings_built_or_refused_twins :
    letI := Pattern.Platform.withRoom 100
    ∃ settings fault, Settings.ofJson twinSettings = .ok settings ∧
      RuleSet.ofSettings settings = .error fault ∧
      fault.message = "customPatterns[1] (id='x').id: duplicates an existing rule id" := by
  let := Pattern.Platform.withRoom 100
  have hread : (Settings.ofJson twinSettings).toOption.map
      (fun settings => settings.customRules.map CustomRule.id) = some ["x", "x"] := by
    decide +kernel
  obtain ⟨settings, h, hids⟩ := exists_of_toOption_map hread
  obtain ⟨first, _, hrules, hfirst, hrest⟩ := List.map_eq_cons_iff.mp hids
  obtain ⟨second, _, rfl, hsecond, hnil⟩ := List.map_eq_cons_iff.mp hrest
  obtain rfl := List.map_eq_nil_iff.mp hnil
  have htaken : TakenAt RuleSet.default.ids settings.customRules 1 := by
    rw [hrules, takenAt_succ, takenAt_zero, hfirst, hsecond]
    exact List.mem_cons_self
  have hfresh : ¬ TakenAt RuleSet.default.ids settings.customRules 0 := by
    rw [hrules, takenAt_zero, hfirst]
    decide +kernel
  obtain ⟨hrefused, htold, _⟩ := ofSettings_built_or_refused h
  obtain ⟨fault, hfault⟩ := hrefused.mpr ⟨1, htaken⟩
  obtain ⟨i, own, htells⟩ := htold fault hfault
  have hpos : i ≠ 0 := by
    rintro rfl
    exact hfresh htells.taken
  have hle : i ≤ 1 := not_lt.mp fun hlt => htells.least 1 hlt htaken
  obtain rfl : i = 1 := by omega
  have hown := htells.rule
  rw [hrules] at hown
  obtain rfl : second = own := Option.some.inj hown
  refine ⟨settings, fault, h, hfault, ?_⟩
  rw [htells.message, hsecond]
  decide +kernel

end SlopLint
