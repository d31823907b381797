import FlashSaleLab.Foundations.Transition

/-!
# What a run can still come to

From a state some allowed steps lead to a goal. Which steps the environment must not take is
in the condition on the steps, so the stronger the condition, the more is said: a goal that is
within reach of every state under a condition that rules failures out is one no past failure has
spoiled. `Within` asks the same of every choice of steps. The rules put such continuations together;
each hands on that the middle state is still at the end of allowed steps, so what is known of those
can be used there.
-/
namespace FlashSaleLab.Transition.System

variable {σ α : Type} (M : System σ α)

/-- Some allowed steps from `s` end in a state with `goal`. -/
def CanReach (allowed : σ → α → Prop) (goal : σ → Prop) (s : σ) : Prop :=
  ∃ s', M.Steps allowed s s' ∧ goal s'

variable {M} {allowed : σ → α → Prop} {goal middle : σ → Prop} {s : σ}

/-- Steps under a condition are steps under a weaker one. -/
theorem Steps.mono {weaker : σ → α → Prop} (implied : ∀ s a, allowed s a → weaker s a) {s s' : σ}
    (steps : M.Steps allowed s s') : M.Steps weaker s s' := by
  apply Relation.ReflTransGen.mono ?_ s s' steps
  rintro before after ⟨a, permitted, taken⟩
  exact ⟨a, implied before a permitted, taken⟩

/-- What no allowed step changes is as it was. -/
theorem Steps.unchanged {β : Type} {f : σ → β}
    (kept : ∀ s a s', allowed s a → M.step s a = some s' → f s' = f s) {s s' : σ}
    (steps : M.Steps allowed s s') : f s' = f s := by
  apply steps.stable (P := fun later => f later = f s) ?_ rfl
  intro before a after same permitted taken
  exact (kept before a after permitted taken).trans same

namespace CanReach

theorem here (holds : goal s) : M.CanReach allowed goal s := ⟨s, .refl, holds⟩

theorem step {a : α} {s' : σ} (permitted : allowed s a) (taken : M.step s a = some s')
    (later : M.CanReach allowed goal s') : M.CanReach allowed goal s := by
  obtain ⟨final, steps, holds⟩ := later
  exact ⟨final, .head ⟨a, permitted, taken⟩ steps, holds⟩

theorem mono {weaker : σ → Prop} (reach : M.CanReach allowed goal s)
    (implied : ∀ s', M.Steps allowed s s' → goal s' → weaker s') :
    M.CanReach allowed weaker s := by
  obtain ⟨final, steps, holds⟩ := reach
  exact ⟨final, steps, implied final steps holds⟩

/-- What can be reached under a condition can be reached under a weaker one. -/
theorem weaken {weaker : σ → α → Prop} (implied : ∀ s a, allowed s a → weaker s a)
    (reach : M.CanReach allowed goal s) : M.CanReach weaker goal s := by
  obtain ⟨final, steps, holds⟩ := reach
  exact ⟨final, steps.mono implied, holds⟩

/-- First to the middle, then on to the goal. -/
theorem trans (reach : M.CanReach allowed middle s)
    (rest : ∀ s', M.Steps allowed s s' → middle s' → M.CanReach allowed goal s') :
    M.CanReach allowed goal s := by
  obtain ⟨between, steps, holds⟩ := reach
  obtain ⟨final, further, arrived⟩ := rest between steps holds
  exact ⟨final, Relation.ReflTransGen.trans steps further, arrived⟩

/-- Rounds that each get to the goal or bring a rank down get to the goal. -/
theorem measure (rank : σ → Nat)
    (round : ∀ s', M.Steps allowed s s' →
      M.CanReach allowed (fun later => goal later ∨ rank later < rank s') s') :
    M.CanReach allowed goal s := by
  -- the rank of the state the next round starts from bounds the rounds still to come
  suffices from_ : ∀ bound s', M.Steps allowed s s' → rank s' < bound →
      M.CanReach allowed goal s' from from_ (rank s + 1) s .refl (Nat.lt_succ_self _)
  intro bound
  induction bound with
  | zero => exact fun s' _ small => absurd small (Nat.not_lt_zero _)
  | succ bound ih =>
    intro s' steps small
    apply (round s' steps).trans
    intro later further outcome
    rcases outcome with arrived | lower
    · exact here arrived
    · exact ih later (Relation.ReflTransGen.trans steps further) (by omega)

/-- Goals that stay once they are reached can be reached one after the other. -/
theorem all {ι : Type} (goals : ι → σ → Prop) (items : List ι)
    (stays : ∀ i ∈ items, ∀ s a s', goals i s → allowed s a → M.step s a = some s' → goals i s')
    (each : ∀ i ∈ items, ∀ s', M.Steps allowed s s' → M.CanReach allowed (goals i) s') :
    M.CanReach allowed (fun s' => ∀ i ∈ items, goals i s') s := by
  induction items with
  | nil => exact here fun i member => absurd member List.not_mem_nil
  | cons item items ih =>
    have rest := ih (fun i member => stays i (List.mem_cons_of_mem _ member))
      (fun i member => each i (List.mem_cons_of_mem _ member))
    apply rest.trans
    intro s' steps arrived
    apply (each item List.mem_cons_self s' steps).mono
    intro later further first i member
    rcases List.mem_cons.mp member with rfl | old
    · exact first
    · -- it was reached before, and has stayed
      exact further.stable (stays i member) (arrived i old)

end CanReach

end FlashSaleLab.Transition.System
