import Mathlib.Tactic.Lemma
import SlopLint.Context

/-!
# Matches that count

A match counts exactly when none of the exceptions holds for it. The tests for them are made one
after the other, and a match does not count either when a test looks for a line that is missing.
-/

namespace SlopLint

/-- No exception covers a match of a subject at a site. -/
structure Accepted (subject : Subject) (kinds : FileKinds) (quiet : Bool) (site : Site) :
    Prop where
  tests : subject.skipInTests = true → kinds.isTest = false
  mocks : subject.skipInMocks = true → kinds.isMock = false
  declarations : Rule.isPermissive subject.id = true → FileKind.isDeclaration site.file = false
  unacknowledged : Rule.isPermissive subject.id = true ∨ Rule.isUnsafe subject.id = true →
    site.isAcknowledged = .ok false
  unexcused : site.isExcused subject.id = .ok false
  unhandled : subject.id = "missing_error_handling" →
    Scope.isCallHandled site.lines site.index = .ok false
  loud : quiet = true → subject.id ≠ "production_console_log" → kinds.isTest = false

section Tests

variable {test next : Except Scope.OutOfRange Bool} {c : Prop} [Decidable c]

/-- A test that refuses a match when it holds lets it through when it is made and fails. -/
lemma refuse_eq_true_iff :
    (do if ← test then pure false else next) = .ok true ↔ test = .ok false ∧ next = .ok true := by
  cases test with
  | error fault => simp [bind, Except.bind]
  | ok answer => cases answer <;> simp [bind, Except.bind, pure, Except.pure]

lemma ite_pure_eq_true_iff :
    (if c then pure false else next) = .ok true ↔ ¬ c ∧ next = .ok true := by
  by_cases hc : c <;> simp [hc, pure, Except.pure]

/-- A test that some subjects are spared fails when it fails for the others. -/
lemma ite_pure_eq_false_iff :
    (if c then test else pure false) = .ok false ↔ (c → test = .ok false) := by
  by_cases hc : c <;> simp [hc, pure, Except.pure]

end Tests

/-- A match counts when all the tests are made and none of them covers it. -/
theorem accepts_eq_true_iff {subject : Subject} {kinds : FileKinds} {quiet : Bool} {site : Site} :
    accepts subject kinds quiet site = .ok true ↔ Accepted subject kinds quiet site := by
  unfold accepts
  simp only [refuse_eq_true_iff, ite_pure_eq_true_iff, ite_pure_eq_false_iff, Bool.or_eq_true,
    Bool.and_eq_true, bne_iff_ne, not_or, not_and, Bool.not_eq_true, and_imp]
  constructor
  · rintro ⟨⟨htests, hmocks⟩, hdeclared, hacknowledged, hexcused, hhandled, hquiet, -⟩
    exact ⟨htests, hmocks, hdeclared, hacknowledged, hexcused, hhandled, hquiet⟩
  · intro h
    exact ⟨⟨h.tests, h.mocks⟩, h.declarations, h.unacknowledged, h.unexcused, h.unhandled,
      h.loud, rfl⟩

end SlopLint
