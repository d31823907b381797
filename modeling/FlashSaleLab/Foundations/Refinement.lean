import FlashSaleLab.Foundations.Transition

/-!
# Refinement

A system refines another one along a map of states when each of its steps is, seen through the map,
finitely many steps of the other. Runs map to runs then, and what the abstract system can never do
the concrete one never does. `Steps.follow` takes a run back: from the abstract system to one that
can match each of its steps.
-/
namespace FlashSaleLab.Transition

variable {σ α τ β υ γ : Type}

/-- The other direction: where each step of `A` can be matched from related states, `C` can follow
every run. -/
theorem System.Steps.follow {C : System σ α} {allowed : σ → α → Prop} {A : System τ β}
    {permitted : τ → β → Prop} {R : σ → τ → Prop}
    (matched : ∀ s t b t', R s t → permitted t b → A.step t b = some t' →
      ∃ s', C.Steps allowed s s' ∧ R s' t')
    {s : σ} {t t' : τ} (steps : A.Steps permitted t t') (related : R s t) :
    ∃ s', C.Steps allowed s s' ∧ R s' t' := by
  induction steps with
  | refl => exact ⟨s, .refl, related⟩
  | tail _ next ih =>
    obtain ⟨b, condition, taken⟩ := next
    obtain ⟨middle, before, together⟩ := ih
    obtain ⟨s', after, arrived⟩ := matched middle _ b _ together condition taken
    exact ⟨s', Relation.ReflTransGen.trans before after, arrived⟩

/-- `view` shows the states of `C` as states of `A`; only allowed steps from reachable states
count. -/
structure Refines (C : System σ α) (allowed : σ → α → Prop) (A : System τ β)
    (permitted : τ → β → Prop) (view : σ → τ) : Prop where
  init : ∀ s, C.init s → A.init (view s)
  step : ∀ s a s', C.Reachable allowed s → allowed s a → C.step s a = some s' →
    A.Steps permitted (view s) (view s')

namespace Refines

variable {C : System σ α} {allowed : σ → α → Prop} {A : System τ β} {permitted : τ → β → Prop}
  {view : σ → τ}

/-- Enough for a refinement whose steps are one abstract step or none. -/
theorem of_step (init : ∀ s, C.init s → A.init (view s))
    (step : ∀ s a s', C.Reachable allowed s → allowed s a → C.step s a = some s' →
      view s' = view s ∨ ∃ b, permitted (view s) b ∧ A.step (view s) b = some (view s')) :
    Refines C allowed A permitted view := by
  refine ⟨init, fun s a s' reach condition taken => ?_⟩
  rcases step s a s' reach condition taken with same | next
  · rw [same]
    exact .refl
  · exact .single next

theorem reachable (refines : Refines C allowed A permitted view) {s : σ}
    (reach : C.Reachable allowed s) : A.Reachable permitted (view s) := by
  induction reach with
  | init start => exact .init (refines.init _ start)
  | step before condition taken ih => exact ih.trans (refines.step _ _ _ before condition taken)

theorem steps (refines : Refines C allowed A permitted view) {s s' : σ}
    (reach : C.Reachable allowed s) (taken : C.Steps allowed s s') :
    A.Steps permitted (view s) (view s') := by
  induction taken with
  | refl => exact .refl
  | tail before next ih =>
    obtain ⟨a, condition, taken⟩ := next
    exact ih.trans (refines.step _ a _ (reach.trans before) condition taken)

/-- An invariant of the abstract system holds of what the concrete one shows. -/
theorem invariant (refines : Refines C allowed A permitted view) {I : τ → Prop}
    (safe : ∀ t, A.Reachable permitted t → I t) {s : σ} (reach : C.Reachable allowed s) :
    I (view s) :=
  safe _ (refines.reachable reach)

/-- Levels compose. -/
theorem trans {B : System υ γ} {granted : υ → γ → Prop} {farther : τ → υ}
    (refines : Refines C allowed A permitted view)
    (further : Refines A permitted B granted farther) :
    Refines C allowed B granted (farther ∘ view) where
  init s start := further.init _ (refines.init s start)
  step _ a _ reach condition taken :=
    further.steps (refines.reachable reach) (refines.step _ a _ reach condition taken)

end Refines

end FlashSaleLab.Transition
