import FlashSaleLab.Foundations.Registry

/-!
# Programs that throw

`EStateM` is a program over a state that an exception does not turn back. A loop runs through when
its body does at every element, and otherwise ends where the body throws first.
-/
namespace FlashSaleLab.Throwing

variable {ε σ α : Type}

/-- The state at the end, with or without an exception. -/
def after : EStateM.Result ε σ α → σ
  | .ok _ s => s
  | .error _ s => s

/-- The `finally` block runs, however the body ended. -/
theorem run_finally (body : EStateM ε σ α) (f : σ → σ) (s : σ) :
    (tryFinally body (modify f)).run s =
      match body.run s with
      | .ok a s' => .ok a (f s')
      | .error e s' => .error e (f s') := by
  change EStateM.map _ _ s = _
  simp only [EStateM.map, tryFinally', EStateM.run]
  cases body s <;> rfl

section Loops

variable (body : α → EStateM ε σ PUnit) (state : List α → σ)

/-- `state done` is the state after the elements `done`. -/
theorem run_forM_from (done items : List α)
    (runs : ∀ before item rest, items = before ++ item :: rest →
      (body item).run (state (done ++ before)) = .ok ⟨⟩ (state (done ++ before ++ [item]))) :
    (items.forM body).run (state done) = .ok ⟨⟩ (state (done ++ items)) := by
  induction items generalizing done with
  | nil => simp [List.forM]
  | cons item items ih =>
    have first := runs [] item items rfl
    simp only [List.append_nil] at first
    -- what comes before an element of the rest has `item` in front
    have rest := ih (done ++ [item]) fun before next rest split => by
      simpa using runs (item :: before) next rest (by simp [split])
    simp only [List.forM, EStateM.run_bind, first, rest]
    simp

theorem run_forM (items : List α)
    (runs : ∀ before item rest, items = before ++ item :: rest →
      (body item).run (state before) = .ok ⟨⟩ (state (before ++ [item]))) :
    (items.forM body).run (state []) = .ok ⟨⟩ (state items) := by
  simpa using run_forM_from body state [] items (by simpa using runs)

/-- What every run of the body keeps, with or without an exception, the loop keeps. -/
theorem forM_keeps {P : σ → Prop} (kept : ∀ item s, P s → P (after ((body item).run s)))
    (items : List α) {s : σ} (holds : P s) : P (after ((items.forM body).run s)) := by
  induction items generalizing s with
  | nil => exact holds
  | cons item items ih =>
    have first := kept item s holds
    simp only [List.forM, EStateM.run_bind]
    cases ran : (body item).run s with
    -- the loop ends here, in the state that the body left
    | error e s' =>
      rw [ran] at first
      exact first
    | ok value s' =>
      rw [ran] at first
      exact ih first

theorem run_forM_append (items rest : List α) (s : σ) :
    ((items ++ rest).forM body).run s =
      match (items.forM body).run s with
      | .ok _ s' => (rest.forM body).run s'
      | .error e s' => .error e s' := by
  induction items generalizing s with
  | nil => rfl
  | cons item items ih =>
    simp only [List.cons_append, List.forM, EStateM.run_bind]
    cases (body item).run s with
    | ok value s' => exact ih s'
    | error e s' => rfl

/-- The loop ends with the exception of the first element at which the body throws. -/
theorem run_forM_throws {items : List α} {item : α} (rest : List α) {e : ε} {s : σ}
    (runs : ∀ before next after, items = before ++ next :: after →
      (body next).run (state before) = .ok ⟨⟩ (state (before ++ [next])))
    (throws : (body item).run (state items) = .error e s) :
    ((items ++ item :: rest).forM body).run (state []) = .error e s := by
  simp only [run_forM_append, run_forM body state items runs, List.forM, EStateM.run_bind, throws]

end Loops

section Maps

variable {β : Type} {f : α → Except ε β} {items : List α} {results : List β}

/-- `mapM` returns when every call does. -/
theorem mapM_eq_ok :
    items.mapM f = .ok results ↔
      List.Forall₂ (fun item result => f item = .ok result) items results := by
  constructor
  · intro ran
    induction items generalizing results with
    | nil =>
      cases ran
      exact .nil
    | cons item items ih =>
      simp only [List.mapM_cons] at ran
      cases first : f item with
      | error e =>
        rw [first] at ran
        cases ran
      | ok result =>
        cases others : items.mapM f with
        | error e =>
          rw [first, others] at ran
          cases ran
        | ok rest =>
          rw [first, others] at ran
          cases ran
          exact .cons first (ih others)
  -- and call by call in the other direction
  · intro all
    induction all with
    | nil => rfl
    | cons first _ ih =>
      simp only [List.mapM_cons, first, ih]
      rfl

theorem mapM_returned (ran : items.mapM f = .ok results) {item : α} (member : item ∈ items) :
    ∃ result ∈ results, f item = .ok result :=
  Registry.forall₂_mem_left (mapM_eq_ok.mp ran) member

theorem mapM_source (ran : items.mapM f = .ok results) {result : β} (member : result ∈ results) :
    ∃ item ∈ items, f item = .ok result :=
  Registry.forall₂_mem_right (mapM_eq_ok.mp ran) member

theorem mapM_returns (returns : ∀ item ∈ items, ∃ result, f item = .ok result) :
    ∃ results, items.mapM f = .ok results := by
  induction items with
  | nil => exact ⟨[], rfl⟩
  | cons item items ih =>
    obtain ⟨result, first⟩ := returns item List.mem_cons_self
    obtain ⟨results, rest⟩ := ih fun other member => returns other (List.mem_cons_of_mem _ member)
    exact ⟨result :: results, by simp only [List.mapM_cons, first, rest]; rfl⟩

/-- It throws when one of them does. -/
theorem mapM_throws {item : α} (member : item ∈ items) {e : ε} (throws : f item = .error e) :
    ∃ e, items.mapM f = .error e := by
  cases ran : items.mapM f with
  | error e => exact ⟨e, rfl⟩
  | ok results =>
    obtain ⟨result, _, returned⟩ := mapM_returned ran member
    cases throws.symm.trans returned

end Maps

end FlashSaleLab.Throwing
