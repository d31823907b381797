import Mathlib.Logic.Relation

/-!
# Labelled transition systems

A system is a set of initial states and a partial step function. The label of a
step carries every choice the environment makes (which party moves, whether a
call fails, how much time passes), so a run is a list of labels and can be
executed. Claims about runs that meet a condition use `Reachable allowed`: every
step of the run satisfies `allowed` in the state it is taken from.
-/
namespace FlashSaleLab.Transition

structure System (σ α : Type) where
  init : σ → Prop
  step : σ → α → Option σ

namespace System

variable {σ α : Type} (M : System σ α)

/-- States at the end of a run whose steps all satisfy `allowed`. -/
inductive Reachable (allowed : σ → α → Prop) : σ → Prop
  | init {s} : M.init s → Reachable allowed s
  | step {s a s'} : Reachable allowed s → allowed s a → M.step s a = some s' →
      Reachable allowed s'

/-- One allowed step. -/
def Next (allowed : σ → α → Prop) (s s' : σ) : Prop :=
  ∃ a, allowed s a ∧ M.step s a = some s'

/-- Finitely many allowed steps. -/
def Steps (allowed : σ → α → Prop) : σ → σ → Prop :=
  Relation.ReflTransGen (M.Next allowed)

variable {M} {allowed : σ → α → Prop}

/-- What holds initially and survives every allowed step holds in every reachable
state. The step case may use that its source is reachable, so earlier invariants
can be cited. -/
theorem Reachable.invariant {I : σ → Prop} (initial : ∀ s, M.init s → I s)
    (preserved : ∀ s a s', M.Reachable allowed s → I s → allowed s a →
      M.step s a = some s' → I s')
    {s : σ} (reachable : M.Reachable allowed s) : I s := by
  induction reachable with
  | init start => exact initial _ start
  | step before permitted taken ih => exact preserved _ _ _ before ih permitted taken

/-- A run under a condition is a run under a weaker one. -/
theorem Reachable.mono {weaker : σ → α → Prop} (implied : ∀ s a, allowed s a → weaker s a) {s : σ}
    (reachable : M.Reachable allowed s) : M.Reachable weaker s := by
  induction reachable with
  | init start => exact .init start
  | step _ permitted taken ih => exact .step ih (implied _ _ permitted) taken

theorem Reachable.trans {s s' : σ} (reachable : M.Reachable allowed s)
    (steps : M.Steps allowed s s') : M.Reachable allowed s' := by
  induction steps with
  | refl => exact reachable
  | tail _ next ih =>
    obtain ⟨a, permitted, taken⟩ := next
    exact .step ih permitted taken

/-- A predicate no allowed step can falsify stays true along a run. -/
theorem Steps.stable {P : σ → Prop}
    (preserved : ∀ s a s', P s → allowed s a → M.step s a = some s' → P s')
    {s s' : σ} (steps : M.Steps allowed s s') (holds : P s) : P s' := by
  induction steps with
  | refl => exact holds
  | tail _ next ih =>
    obtain ⟨a, permitted, taken⟩ := next
    exact preserved _ a _ ih permitted taken

/-- A fold whose rounds are runs, as far as the view shows, is a run. -/
theorem Steps.foldl {τ ι : Type} (view : τ → σ) {f : τ → ι → τ}
    (each : ∀ t i, M.Steps allowed (view t) (view (f t i))) (items : List ι) (t : τ) :
    M.Steps allowed (view t) (view (items.foldl f t)) := by
  induction items generalizing t with
  | nil => exact .refl
  | cons i items ih => exact (each t i).trans (ih _)

/-- The same, with what is known of the reachable states on the way. -/
theorem Reachable.stable {P : σ → Prop}
    (preserved : ∀ s a s', M.Reachable allowed s → P s → allowed s a → M.step s a = some s' → P s')
    {s s' : σ} (reachable : M.Reachable allowed s) (steps : M.Steps allowed s s') (holds : P s) :
    P s' := by
  induction steps with
  | refl => exact holds
  | tail before next ih =>
    obtain ⟨a, permitted, taken⟩ := next
    exact preserved _ a _ (reachable.trans before) ih permitted taken

variable (M)

/-- Take the labels one after the other, leaving out what is not possible or not allowed. -/
def play (check : σ → α → Bool) (s : σ) : List α → σ
  | [] => s
  | a :: rest => play check (if check s a then (M.step s a).getD s else s) rest

variable {M}

theorem play_steps (check : σ → α → Bool) (sound : ∀ s a, check s a = true → allowed s a)
    (s : σ) (labels : List α) : M.Steps allowed s (M.play check s labels) := by
  induction labels generalizing s with
  | nil => exact .refl
  | cons a rest ih =>
    simp only [play]
    split
    next checked =>
      cases taken : M.step s a with
      | none => exact ih s
      | some s' => exact .head ⟨a, sound s a checked, taken⟩ (ih s')
    · exact ih s

theorem play_reachable (check : σ → α → Bool) (sound : ∀ s a, check s a = true → allowed s a)
    {s : σ} (reachable : M.Reachable allowed s) (labels : List α) :
    M.Reachable allowed (M.play check s labels) :=
  reachable.trans (play_steps check sound s labels)

end System

end FlashSaleLab.Transition
