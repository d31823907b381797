import FlashSaleLab.Foundations.Transition

/-!
# Runs with their past

`Reachable` forgets how a state was reached. `Run` keeps the steps, the last one first, each with the
state it was taken from, for results about two moments of one run. `Run.numbered` brings
in a history variable, which notes down what the states do not say. `startedIn` makes any state the
beginning, for what a run does from there on.
-/
namespace FlashSaleLab.Transition.System

variable {σ α : Type} (M : System σ α)

/-- A run that ends in a state, with its steps. -/
inductive Run (allowed : σ → α → Prop) : List (σ × α) → σ → Prop
  | init {s} : M.init s → Run allowed [] s
  | step {past s a s'} : Run allowed past s → allowed s a → M.step s a = some s' →
      Run allowed ((s, a) :: past) s'

variable {M} {allowed : σ → α → Prop} {past : List (σ × α)} {s : σ}

theorem Run.reachable (run : M.Run allowed past s) : M.Reachable allowed s := by
  induction run with
  | init start => exact .init start
  | step _ permitted taken ih => exact .step ih permitted taken

theorem Reachable.run (reachable : M.Reachable allowed s) : ∃ past, M.Run allowed past s := by
  induction reachable with
  | init start => exact ⟨[], .init start⟩
  | step _ permitted taken ih =>
    obtain ⟨past, run⟩ := ih
    exact ⟨_, .step run permitted taken⟩

/-- A rank pays for work: what each step of work brings it down, only `starts` bring up again. -/
theorem Run.budget (rank : σ → Nat) (work starts : α → Bool) (init grant : Nat)
    (initial : ∀ s, M.init s → rank s ≤ init)
    (pays : ∀ s a s', M.step s a = some s' →
      rank s' + (if work a then 1 else 0) ≤ rank s + (if starts a then grant else 0))
    (run : M.Run allowed past s) :
    past.countP (fun step => work step.2) + rank s ≤
      init + grant * past.countP (fun step => starts step.2) := by
  induction run with
  | init start => simpa using initial _ start
  | @step past s a s' before permitted taken ih =>
    have paid := pays s a s' taken
    have granted : grant * (if starts a then 1 else 0) = if starts a then grant else 0 := by
      split
      · exact Nat.mul_one grant
      · exact Nat.mul_zero grant
    simp only [List.countP_cons, Nat.mul_add, granted]
    omega

/-- A history variable has a value after the run if every step can bring it up to date. -/
theorem Run.numbered {β : Type} {J : List (σ × α) → σ → β → Prop}
    (initial : ∀ s, M.init s → ∃ b, J [] s b)
    (updated : ∀ past s a s' b, M.Run allowed past s → J past s b → allowed s a →
      M.step s a = some s' → ∃ b', J ((s, a) :: past) s' b')
    (run : M.Run allowed past s) : ∃ b, J past s b := by
  induction run with
  | init start => exact initial _ start
  | step before permitted taken ih =>
    obtain ⟨b, holds⟩ := ih
    exact updated _ _ _ _ b before holds permitted taken

end FlashSaleLab.Transition.System
