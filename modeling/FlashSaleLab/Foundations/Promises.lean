import Mathlib.Data.List.Basic

/-!
# Promises

How a promise stands, without its value: `caught` is a promise with a `catch` whose handler does not
throw, and `all` is `Promise.all`.
-/
namespace FlashSaleLab

inductive Promise where
  | pending
  | fulfilled
  | rejected
  deriving DecidableEq

namespace Promise

def caught : Promise → Promise
  | .rejected => .fulfilled
  | promise => promise

/-- It rejects with the first promise that does, and else waits for all of them. -/
def all (promises : List Promise) : Promise :=
  if .rejected ∈ promises then .rejected
  else if .pending ∈ promises then .pending
  else .fulfilled

variable {promise : Promise} {promises : List Promise}

@[simp] theorem caught_ne_rejected : promise.caught ≠ .rejected := by
  cases promise <;> simp [caught]

@[simp] theorem caught_eq_pending : promise.caught = .pending ↔ promise = .pending := by
  cases promise <;> simp [caught]

theorem all_ne_rejected (kept : ∀ promise ∈ promises, promise ≠ .rejected) :
    all promises ≠ .rejected := by
  have none : .rejected ∉ promises := fun member => kept .rejected member rfl
  rw [all, if_neg none]
  split <;> simp

end Promise

end FlashSaleLab
