import Mathlib.Data.List.Pairwise
import SlopLint.Proofs.ReadSettings

/-!
# The shape of settings

The order of members and the choice among the names of a field say nothing. Where every field goes
by one name at most, in the settings and in each of their rules, members may change places and take
other names of their fields, and the same settings are read or none as before.
-/

namespace SlopLint.Settings

/-- Names that stand for the same: equal ones, and names of one field. -/
def SameField (fields : List (List String)) (name other : String) : Prop :=
  name = other ∨ ∃ names ∈ fields, name ∈ names ∧ other ∈ names

/-- No name stands twice, and no field goes by two names. -/
def Plain (fields : List (List String)) (members : List (String × Json)) : Prop :=
  members.Pairwise fun m n => ¬ SameField fields m.1 n.1

/-- Members in another order and under other names of their fields; `alike` says, for the name of a
member, what its value may become. -/
def Reshaped (fields : List (List String)) (alike : String → Json → Json → Prop)
    (members members' : List (String × Json)) : Prop :=
  ∃ renamed, List.Forall₂ (fun m n => SameField fields m.1 n.1 ∧ alike m.1 m.2 n.2) members renamed ∧
    renamed.Perm members'

/-- A rule in another shape. -/
inductive RuleReshaped : Json → Json → Prop
  | same (value : Json) : RuleReshaped value value
  | object {members members' : List (String × Json)}
    (h : Reshaped ruleFields (fun _ => Eq) members members') :
    RuleReshaped (.object members) (.object members')

/-- What the member with a name may become: lists of rules may have their rules in other shapes. -/
inductive SettingReshaped (name : String) : Json → Json → Prop
  | same (value : Json) : SettingReshaped name value value
  | rules {values values' : List Json}
    (hname : name ∈ ["custom_rules", "customPatterns", "customRules"])
    (h : List.Forall₂ RuleReshaped values values') :
    SettingReshaped name (.array values) (.array values')

instance (fields : List (List String)) (name other : String) :
    Decidable (SameField fields name other) :=
  inferInstanceAs (Decidable (name = other ∨ ∃ names ∈ fields, name ∈ names ∧ other ∈ names))

instance (fields : List (List String)) (members : List (String × Json)) :
    Decidable (Plain fields members) :=
  inferInstanceAs (Decidable (members.Pairwise fun m n => ¬ SameField fields m.1 n.1))

/-! ### Names of one field -/

section Names

variable {fields : List (List String)} {name other third : String}

lemma SameField.symm (h : SameField fields name other) : SameField fields other name := by
  obtain rfl | ⟨names, hnames, hname, hother⟩ := h
  · exact .inl rfl
  · exact .inr ⟨names, hnames, hother, hname⟩

lemma SameField.mem_iff (hapart : Apart fields) (h : SameField fields name other)
    {names : List String} (hnames : names ∈ fields) : name ∈ names ↔ other ∈ names := by
  obtain rfl | ⟨others, hothers, hname, hother⟩ := h
  · rfl
  · constructor
    · intro hin
      rwa [hapart names hnames others hothers name hin hname]
    · intro hin
      rwa [hapart names hnames others hothers other hin hother]

lemma SameField.trans (hapart : Apart fields) (h : SameField fields name other)
    (h' : SameField fields other third) : SameField fields name third := by
  obtain rfl | ⟨names, hnames, hname, hother⟩ := h
  · exact h'
  · exact .inr ⟨names, hnames, hname, (h'.mem_iff hapart hnames).mp hother⟩

end Names

/-! ### Plain members -/

section Members

variable {fields : List (List String)} {members members' : List (String × Json)}
  {names : List String} {alike : String → Json → Json → Prop}

/-- In plain members a field is read from its only member. -/
lemma field?_eq_some_iff (hplain : Plain fields members) (hnames : names ∈ fields)
    {member : String × Json} :
    field? members names = some member ↔ member ∈ members ∧ member.1 ∈ names := by
  constructor
  · intro h
    obtain ⟨hin, hvalue⟩ := member_of_field h
    exact ⟨mem_of_member? hvalue, hin⟩
  · rintro ⟨hmember, hin⟩
    cases hfield : field? members names with
    | none =>
      have hnone := List.findSome?_eq_none_iff.mp hfield member.1 hin
      simp only [Option.map_eq_none_iff, Json.member?] at hnone
      simpa using List.find?_eq_none.mp hnone member hmember
    | some taken =>
      obtain ⟨htaken, hvalue⟩ := member_of_field hfield
      by_contra hne
      have hsame : SameField fields taken.1 member.1 := .inr ⟨names, hnames, htaken, hin⟩
      have hsymm : Std.Symm fun m n : String × Json => ¬ SameField fields m.1 n.1 :=
        ⟨fun m n h hs => h hs.symm⟩
      exact hplain.forall (mem_of_member? hvalue) hmember (fun h => hne (congrArg some h)) hsame

lemma covered_iff (hplain : Plain fields members) :
    Covered fields members ↔ ∀ member ∈ members, ∃ names ∈ fields, member.1 ∈ names := by
  constructor
  · intro h member hmember
    obtain ⟨names, hnames, _, hfield⟩ := h member hmember
    exact ⟨names, hnames, (member_of_field hfield).1⟩
  · intro h member hmember
    obtain ⟨names, hnames, hin⟩ := h member hmember
    exact ⟨names, hnames, member.2, (field?_eq_some_iff hplain hnames).mpr ⟨hmember, hin⟩⟩

/-! ### Members in another shape -/

lemma Reshaped.exists_new (h : Reshaped fields alike members members') {member : String × Json}
    (hmember : member ∈ members) :
    ∃ new ∈ members', SameField fields member.1 new.1 ∧ alike member.1 member.2 new.2 := by
  obtain ⟨renamed, hrenamed, hperm⟩ := h
  obtain ⟨new, hnew, hsame⟩ := exists_of_mem_right hrenamed.flip hmember
  exact ⟨new, hperm.mem_iff.mp hnew, hsame⟩

lemma Reshaped.exists_old (h : Reshaped fields alike members members') {new : String × Json}
    (hnew : new ∈ members') :
    ∃ member ∈ members, SameField fields member.1 new.1 ∧ alike member.1 member.2 new.2 := by
  obtain ⟨renamed, hrenamed, hperm⟩ := h
  exact exists_of_mem_right hrenamed (hperm.mem_iff.mpr hnew)

/-- Plain members stay plain. -/
lemma Plain.reshaped (hapart : Apart fields) (hplain : Plain fields members)
    (h : Reshaped fields alike members members') : Plain fields members' := by
  obtain ⟨renamed, hrenamed, hperm⟩ := h
  refine (hperm.pairwise_iff fun hmn hnm => hmn hnm.symm).mp ?_
  clear hperm
  induction hrenamed with
  | nil => exact .nil
  | @cons member new members renamed hsame hrest ih =>
    obtain ⟨hfirst, hmembers⟩ := List.pairwise_cons.mp hplain
    refine List.pairwise_cons.mpr ⟨?_, ih hmembers⟩
    intro other' hother' hmeet
    obtain ⟨other, hother, hsame', _⟩ := exists_of_mem_right hrest hother'
    exact hfirst other hother
      ((hsame.1.trans hapart hmeet).trans hapart hsame'.symm)

/-- Fields of plain members hold what they held before, or what it may become. -/
lemma value?_reshaped (hapart : Apart fields) (hplain : Plain fields members)
    (h : Reshaped fields alike members members') (hnames : names ∈ fields) :
    Option.Rel (fun value new => ∃ name ∈ names, (name, value) ∈ members ∧ alike name value new)
      (value? members names) (value? members' names) := by
  have hplain' := hplain.reshaped hapart h
  unfold value?
  cases hfield : field? members names with
  | none =>
    cases hfield' : field? members' names with
    | none => exact .none
    | some new =>
      obtain ⟨hnew, hin⟩ := (field?_eq_some_iff hplain' hnames).mp hfield'
      obtain ⟨member, hmember, hsame, _⟩ := h.exists_old hnew
      have htaken := (field?_eq_some_iff hplain hnames).mpr
        ⟨hmember, (hsame.mem_iff hapart hnames).mpr hin⟩
      rw [hfield] at htaken
      cases htaken
  | some member =>
    obtain ⟨hmember, hin⟩ := (field?_eq_some_iff hplain hnames).mp hfield
    obtain ⟨new, hnew, hsame, halike⟩ := h.exists_new hmember
    rw [(field?_eq_some_iff hplain' hnames).mpr
      ⟨hnew, (hsame.mem_iff hapart hnames).mp hin⟩]
    exact .some ⟨member.1, hin, hmember, halike⟩

lemma covered_reshaped (hapart : Apart fields) (hplain : Plain fields members)
    (h : Reshaped fields alike members members') :
    Covered fields members ↔ Covered fields members' := by
  rw [covered_iff hplain, covered_iff (hplain.reshaped hapart h)]
  constructor
  · intro hcovered new hnew
    obtain ⟨member, hmember, hsame, _⟩ := h.exists_old hnew
    obtain ⟨names, hnames, hin⟩ := hcovered member hmember
    exact ⟨names, hnames, (hsame.mem_iff hapart hnames).mp hin⟩
  · intro hcovered member hmember
    obtain ⟨new, hnew, hsame, _⟩ := h.exists_new hmember
    obtain ⟨names, hnames, hin⟩ := hcovered new hnew
    exact ⟨names, hnames, (hsame.mem_iff hapart hnames).mpr hin⟩

lemma holds_reshaped {α : Type} {reads : Json → α → Prop} {default a : α} (hapart : Apart fields)
    (hplain : Plain fields members) (h : Reshaped fields alike members members')
    (hnames : names ∈ fields)
    (hreads : ∀ name ∈ names, ∀ value new, (name, value) ∈ members → alike name value new →
      (reads value a ↔ reads new a)) :
    Holds reads default (value? members names) a ↔
      Holds reads default (value? members' names) a := by
  have hrel := value?_reshaped hapart hplain h hnames
  generalize value? members names = value at hrel ⊢
  generalize value? members' names = new at hrel ⊢
  cases hrel with
  | none => rfl
  | some hboth =>
    obtain ⟨name, hname, hmember, halike⟩ := hboth
    exact hreads name hname _ _ hmember halike

/-! ### Rules in another shape -/

/-- A rule is read from the values of its fields. -/
lemma RuleMembers.of_values {rule : CustomRule} (h : RuleMembers members rule)
    (hvalues : ∀ names ∈ ruleFields, value? members names = value? members' names)
    (hcovered : Covered ruleFields members') : RuleMembers members' rule where
  id := (hvalues _ (by decide)).symm.trans h.id
  pattern := (hvalues _ (by decide)).symm.trans h.pattern
  message := (hvalues _ (by decide)).symm.trans h.message
  severity := (hvalues _ (by decide)).symm.trans h.severity
  description := hvalues ["description"] (by decide) ▸ h.description
  fix := hvalues ["fix"] (by decide) ▸ h.fix
  learnMore := hvalues ["learnMore", "learn_more"] (by decide) ▸ h.learnMore
  covered := hcovered

lemma ruleMembers_reshaped {rule : CustomRule} (hplain : Plain ruleFields members)
    (h : Reshaped ruleFields (fun _ => Eq) members members') :
    RuleMembers members rule ↔ RuleMembers members' rule := by
  have hcovered := covered_reshaped apart_ruleFields hplain h
  have hvalues : ∀ names ∈ ruleFields, value? members names = value? members' names := by
    intro names hnames
    have hrel := value?_reshaped apart_ruleFields hplain h hnames
    generalize value? members names = value at hrel ⊢
    generalize value? members' names = new at hrel ⊢
    cases hrel with
    | none => rfl
    | some hboth =>
      obtain ⟨_, _, _, heq⟩ := hboth
      rw [heq]
  constructor
  · intro hread
    exact hread.of_values hvalues (hcovered.mp hread.covered)
  · intro hread
    exact hread.of_values (fun names hnames => (hvalues names hnames).symm)
      (hcovered.mpr hread.covered)

lemma readsRule_reshaped [Pattern.Platform] {value value' : Json} {rule : CustomRule}
    (h : RuleReshaped value value')
    (hplain : ∀ members, value = .object members → Plain ruleFields members) :
    ReadsRule value rule ↔ ReadsRule value' rule := by
  cases h with
  | same => rfl
  | @object members members' h =>
    have hmembers := @ruleMembers_reshaped members members' rule (hplain _ rfl) h
    simp only [ReadsRule, Json.object.injEq, exists_eq_left', hmembers]

lemma readsRules_reshaped [Pattern.Platform] {values values' : List Json} {rules : List CustomRule}
    (h : List.Forall₂ RuleReshaped values values')
    (hplain : ∀ members, .object members ∈ values → Plain ruleFields members) :
    List.Forall₂ ReadsRule values rules ↔ List.Forall₂ ReadsRule values' rules := by
  induction h generalizing rules with
  | nil => rfl
  | @cons value value' values values' hvalue _ ih =>
    rw [List.forall₂_cons_left_iff, List.forall₂_cons_left_iff]
    have hfirst {rule : CustomRule} : ReadsRule value rule ↔ ReadsRule value' rule := by
      refine readsRule_reshaped hvalue ?_
      rintro members rfl
      exact hplain members List.mem_cons_self
    have hrest {rules : List CustomRule} :
        List.Forall₂ ReadsRule values rules ↔ List.Forall₂ ReadsRule values' rules :=
      ih fun members hmember => hplain members (List.mem_cons_of_mem _ hmember)
    simp only [hfirst, hrest]

end Members

/-! ### Settings in another shape -/

/-- Only lists of rules may become something else. -/
lemma SettingReshaped.eq {name : String} {value new : Json} (h : SettingReshaped name value new)
    (hname : name ∉ ["custom_rules", "customPatterns", "customRules"]) : value = new := by
  cases h with
  | same => rfl
  | rules hin => exact absurd hin hname

section Settings

variable {members members' : List (String × Json)}

/-- A field that is no list of rules is read as before. -/
lemma holds_unchanged {α : Type} {reads : Json → α → Prop} {default a : α}
    (hplain : Plain settingsFields members)
    (h : Reshaped settingsFields SettingReshaped members members') {names : List String}
    (hnames : names ∈ settingsFields)
    (hother : ∀ name ∈ names, name ∉ ["custom_rules", "customPatterns", "customRules"]) :
    Holds reads default (value? members names) a ↔
      Holds reads default (value? members' names) a := by
  refine holds_reshaped apart_settingsFields hplain h hnames ?_
  intro name hname value new _ halike
  rw [halike.eq (hother name hname)]

lemma customRules_reshaped [Pattern.Platform] {rules : List CustomRule}
    (hplain : Plain settingsFields members)
    (hrules : ∀ name ∈ ["custom_rules", "customPatterns", "customRules"], ∀ values,
      (name, Json.array values) ∈ members → ∀ entry, Json.object entry ∈ values →
        Plain ruleFields entry)
    (h : Reshaped settingsFields SettingReshaped members members') :
    Holds ReadsRules [] (value? members ["custom_rules", "customPatterns", "customRules"]) rules ↔
      Holds ReadsRules [] (value? members' ["custom_rules", "customPatterns", "customRules"])
        rules := by
  refine holds_reshaped apart_settingsFields hplain h List.mem_cons_self ?_
  intro name hname value new hmember halike
  cases halike with
  | same => rfl
  | rules _ hshape =>
    have hread := @readsRules_reshaped _ _ _ rules hshape (hrules name hname _ hmember)
    simp only [ReadsRules, Json.array.injEq, exists_eq_left', hread]

/-- Settings whose members and rules are plain are read the same in every shape. -/
theorem ofJson_reshaped [Pattern.Platform] (hplain : Plain settingsFields members)
    (hrules : ∀ name ∈ ["custom_rules", "customPatterns", "customRules"], ∀ values,
      (name, Json.array values) ∈ members → ∀ entry, Json.object entry ∈ values →
        Plain ruleFields entry)
    (h : Reshaped settingsFields SettingReshaped members members') (settings : Settings) :
    ofJson (.object members) = .ok settings ↔ ofJson (.object members') = .ok settings := by
  have hcustomRules := @customRules_reshaped _ _ _ settings.customRules hplain hrules h
  have hoverrides := @holds_unchanged _ _ _ ReadsOverrides [] settings.severityOverrides hplain h
    ["severity_overrides", "severityOverrides"] (by decide) (by decide)
  have hignorePaths := @holds_unchanged _ _ _ ReadsTexts [] settings.ignorePaths hplain h
    ["ignore_paths", "ignorePaths"] (by decide) (by decide)
  have hstrict := @holds_unchanged _ _ _ ReadsTruth false settings.strict hplain h
    ["strict", "blockOnCritical"] (by decide) (by decide)
  have hcovered := covered_reshaped apart_settingsFields hplain h
  simp only [ofJson_eq_ok_iff, Json.object.injEq, exists_eq_left']
  constructor
  · intro hread
    exact ⟨hcustomRules.mp hread.customRules, hoverrides.mp hread.severityOverrides,
      hignorePaths.mp hread.ignorePaths, hstrict.mp hread.strict, hcovered.mp hread.covered⟩
  · intro hread
    exact ⟨hcustomRules.mpr hread.customRules, hoverrides.mpr hread.severityOverrides,
      hignorePaths.mpr hread.ignorePaths, hstrict.mpr hread.strict, hcovered.mpr hread.covered⟩

end Settings

/-- A rule whose link goes by the first of its names. -/
def linkedRule : List (String × Json) :=
  [("id", .string "x"), ("pattern", .string "foo"), ("message", .string "m"),
    ("severity", .string "low"), ("learnMore", .string "docs")]

/-- The same rule with its link in front and under its other name. -/
def relinkedRule : List (String × Json) :=
  ("learn_more", .string "docs") :: linkedRule.dropLast

lemma linkedRule_reshaped : Reshaped ruleFields (fun _ => Eq) linkedRule relinkedRule :=
  ⟨linkedRule.dropLast ++ [("learn_more", .string "docs")],
    .cons ⟨.inl rfl, rfl⟩ <| .cons ⟨.inl rfl, rfl⟩ <| .cons ⟨.inl rfl, rfl⟩ <|
      .cons ⟨.inl rfl, rfl⟩ <| .cons ⟨.inr ⟨["learnMore", "learn_more"], by decide⟩, rfl⟩ .nil,
    List.perm_append_singleton _ _⟩

/-- Settings with this rule. -/
def linkedSettings : List (String × Json) :=
  [("customPatterns", .array [.object linkedRule]), ("blockOnCritical", .string "Yes")]

/-- The same settings with their members exchanged and under other names. -/
def relinkedSettings : List (String × Json) :=
  [("strict", .string "Yes"), ("custom_rules", .array [.object relinkedRule])]

lemma linkedSettings_reshaped :
    Reshaped settingsFields SettingReshaped linkedSettings relinkedSettings :=
  ⟨[("custom_rules", .array [.object relinkedRule]), ("strict", .string "Yes")],
    .cons ⟨.inr ⟨["custom_rules", "customPatterns", "customRules"], by decide⟩,
      .rules (by decide) (.cons (.object linkedRule_reshaped) .nil)⟩ <|
    .cons ⟨.inr ⟨["strict", "blockOnCritical"], by decide⟩, .same _⟩ .nil,
    .swap _ _ _⟩

theorem ofJson_reshaped_linkedRule :
    letI := Pattern.Platform.withRoom 100
    ∃ settings, ofJson (.object linkedSettings) = .ok settings ∧
      ofJson (.object relinkedSettings) = .ok settings ∧ settings.strict = true := by
  let := Pattern.Platform.withRoom 100
  have hread : (ofJson (.object linkedSettings)).toOption.map Settings.strict = some true := by
    decide +kernel
  obtain ⟨settings, hsettings, hstrict⟩ := exists_of_toOption_map hread
  have hrules : ∀ name ∈ ["custom_rules", "customPatterns", "customRules"], ∀ values,
      (name, Json.array values) ∈ linkedSettings →
      ∀ entry, Json.object entry ∈ values → Plain ruleFields entry := by
    intro name _ values hmember entry hentry
    obtain ⟨_, rfl⟩ : name = "customPatterns" ∧ values = [.object linkedRule] := by
      simpa [linkedSettings] using hmember
    obtain rfl : entry = linkedRule := by simpa using hentry
    decide
  have hiff := ofJson_reshaped (by decide) hrules linkedSettings_reshaped settings
  exact ⟨settings, hsettings, hiff.mp hsettings, hstrict⟩

end SlopLint.Settings
