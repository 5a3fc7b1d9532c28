import Mathlib.Data.List.Forall2
import Mathlib.Tactic.Lemma

/-!
# Steps that may fail

A step and what follows it succeed when both do, and fail with the fault of the first that fails.
Steps on the members of a list succeed on the whole list when they succeed on every member, and
then on any selection of them; they fail with the fault of the first member they fail on.
-/

namespace SlopLint

section Steps

variable {ε α β : Type}

lemma bind_eq_ok_iff {step : Except ε α} {next : α → Except ε β} {result : β} :
    step >>= next = .ok result ↔ ∃ value, step = .ok value ∧ next value = .ok result := by
  cases step with
  | error fault => simp [bind, Except.bind]
  | ok value => simp [bind, Except.bind]

lemma bind_eq_error_iff {step : Except ε α} {next : α → Except ε β} {fault : ε} :
    step >>= next = .error fault ↔
      step = .error fault ∨ ∃ value, step = .ok value ∧ next value = .error fault := by
  cases step with
  | error fault => simp [bind, Except.bind]
  | ok value => simp [bind, Except.bind]

lemma map_eq_ok_iff {step : Except ε α} {f : α → β} {b : β} :
    step.map f = .ok b ↔ ∃ value, step = .ok value ∧ f value = b := by
  cases step with
  | error fault => simp [Except.map]
  | ok value => simp [Except.map]

/-- What is seen of the value of a step shows that there is one. -/
lemma exists_of_toOption_map {step : Except ε α} {f : α → β} {b : β}
    (h : step.toOption.map f = some b) : ∃ value, step = .ok value ∧ f value = b := by
  cases step with
  | error fault => cases h
  | ok value => exact ⟨value, rfl, Option.some.inj h⟩

lemma mapM_eq_ok_iff {step : α → Except ε β} {values : List α} {results : List β} :
    values.mapM step = .ok results ↔ List.Forall₂ (fun a b => step a = .ok b) values results := by
  induction values generalizing results with
  | nil => simp [pure, Except.pure, eq_comm]
  | cons a values ih =>
    rw [List.mapM_cons, bind_eq_ok_iff]
    constructor
    · rintro ⟨b, hb, hrest⟩
      obtain ⟨bs, hbs, hpure⟩ := bind_eq_ok_iff.mp hrest
      cases hpure
      exact .cons hb (ih.mp hbs)
    · rintro (_ | ⟨hb, hrest⟩)
      exact ⟨_, hb, bind_eq_ok_iff.mpr ⟨_, ih.mpr hrest, rfl⟩⟩

/-- What succeeds on all members succeeds on the selected ones, where members and results are
selected alike. -/
theorem mapM_filter_eq_ok {step : α → Except ε β} {p : α → Bool} {q : β → Bool}
    (hpq : ∀ a b, step a = .ok b → q b = p a) {values : List α} {results : List β}
    (h : values.mapM step = .ok results) :
    (values.filter p).mapM step = .ok (results.filter q) := by
  rw [mapM_eq_ok_iff] at h ⊢
  induction h with
  | nil => exact .nil
  | @cons a b values results hab _ ih =>
    rw [List.filter_cons, List.filter_cons, hpq a b hab]
    cases p a with
    | false => exact ih
    | true => exact .cons hab ih

/-- Steps on the members of a list whose values are known succeed with the list of these. -/
lemma mapM_eq_ok_map {step : α → Except ε β} {f : α → β} {values : List α}
    (h : ∀ value ∈ values, step value = .ok (f value)) :
    values.mapM step = .ok (values.map f) := by
  rw [mapM_eq_ok_iff, List.forall₂_map_right_iff, List.forall₂_same]
  exact h

/-- Steps on the members of several lists succeed when they do on each of the lists. -/
lemma mapM_flatMap_eq_ok {γ : Type} {step : α → Except ε β} {f : γ → List α} {g : γ → List β}
    {values : List γ} (h : ∀ value ∈ values, (f value).mapM step = .ok (g value)) :
    (values.flatMap f).mapM step = .ok (values.flatMap g) := by
  induction values with
  | nil => rfl
  | cons value values ih =>
    obtain ⟨hvalue, hvalues⟩ := List.forall_mem_cons.mp h
    rw [List.flatMap_cons, List.mapM_append, hvalue, ih hvalues]
    rfl

/-- They fail with the fault of the first member they fail on. -/
lemma mapM_eq_error_iff {step : α → Except ε β} {values : List α} {fault : ε} :
    values.mapM step = .error fault ↔ ∃ before value after, values = before ++ value :: after ∧
      (∀ earlier ∈ before, ∃ b, step earlier = .ok b) ∧ step value = .error fault := by
  induction values with
  | nil => simp [pure, Except.pure]
  | cons first values ih =>
    rw [List.mapM_cons, bind_eq_error_iff]
    constructor
    · rintro (hfirst | ⟨b, hfirst, hrest⟩)
      · exact ⟨[], first, values, rfl, nofun, hfirst⟩
      · rcases bind_eq_error_iff.mp hrest with hrest | ⟨_, _, hpure⟩
        · obtain ⟨before, value, after, rfl, hbefore, hvalue⟩ := ih.mp hrest
          exact ⟨first :: before, value, after, rfl,
            List.forall_mem_cons.mpr ⟨⟨b, hfirst⟩, hbefore⟩, hvalue⟩
        · cases hpure
    · rintro ⟨before, value, after, hsplit, hbefore, hvalue⟩
      cases before with
      | nil =>
        obtain ⟨rfl, rfl⟩ := List.cons.inj hsplit
        exact .inl hvalue
      | cons earlier before =>
        obtain ⟨rfl, rfl⟩ := List.cons.inj hsplit
        obtain ⟨⟨b, hfirst⟩, hbefore⟩ := List.forall_mem_cons.mp hbefore
        refine .inr ⟨b, hfirst, bind_eq_error_iff.mpr (.inl ?_)⟩
        exact ih.mpr ⟨before, value, after, rfl, hbefore, hvalue⟩

lemma forM_eq_ok_iff {step : α → Except ε Unit} {values : List α} :
    forM values step = .ok () ↔ ∀ value ∈ values, step value = .ok () := by
  induction values with
  | nil => simp [pure, Except.pure]
  | cons value values ih =>
    rw [List.forM_cons, bind_eq_ok_iff, List.forall_mem_cons, ← ih]
    constructor
    · rintro ⟨⟨⟩, hvalue, hrest⟩
      exact ⟨hvalue, hrest⟩
    · rintro ⟨hvalue, hrest⟩
      exact ⟨(), hvalue, hrest⟩

end Steps

/-! ### Steps that do not fail -/

/-- A step that does not fail. -/
def Succeeds {ε α : Type} (step : Except ε α) : Prop :=
  ∃ value, step = .ok value

section Succeeding

variable {ε α β : Type}

lemma ok_succeeds (value : α) : Succeeds (.ok value : Except ε α) :=
  ⟨value, rfl⟩

lemma bind_succeeds {step : Except ε α} {next : α → Except ε β} (hstep : Succeeds step)
    (hnext : ∀ value, Succeeds (next value)) : Succeeds (step >>= next) := by
  obtain ⟨value, rfl⟩ := hstep
  exact hnext value

lemma map_succeeds {step : Except ε α} (f : α → β) (h : Succeeds step) :
    Succeeds (step.map f) := by
  obtain ⟨value, rfl⟩ := h
  exact ok_succeeds (f value)

lemma ite_succeeds {c : Prop} [Decidable c] {first second : Except ε α} (hfirst : Succeeds first)
    (hsecond : Succeeds second) : Succeeds (if c then first else second) := by
  split
  · exact hfirst
  · exact hsecond

end Succeeding

end SlopLint
