import Mathlib.Data.List.Basic

/-!
# Linearizability of a finite history

An operation is known by its input, its output and the two instants between which it ran.
A history is linearizable for a sequential object when its operations can be put into one
order that never contradicts real time and that the object, run one operation at a time,
reproduces.
-/
namespace FlashSaleLab.Linearizability

structure Operation (ι ο : Type) where
  input : ι
  output : ο
  begunAt : Nat
  finishedAt : Nat

variable {σ ι ο : Type}

/-- Running the object over the operations gives each its output and ends in `final`. -/
def Replays (object : σ → ι → σ × ο) : σ → List (Operation ι ο) → σ → Prop
  | s, [], final => s = final
  | s, op :: rest, final =>
    (object s op.input).2 = op.output ∧ Replays object (object s op.input).1 rest final

/-- No operation stands before one that had finished when it began. -/
def RespectsRealTime (order : List (Operation ι ο)) : Prop :=
  order.Pairwise fun first second => ¬second.finishedAt < first.begunAt

def Linearizable (object : σ → ι → σ × ο) (initial : σ) (history : List (Operation ι ο))
    (final : σ) : Prop :=
  ∃ order, order.Perm history ∧ RespectsRealTime order ∧ Replays object initial order final

theorem replays_concat (object : σ → ι → σ × ο) (order : List (Operation ι ο))
    (op : Operation ι ο) (s middle final : σ) (before : Replays object s order middle)
    (last : object middle op.input = (final, op.output)) :
    Replays object s (order ++ [op]) final := by
  induction order generalizing s with
  | nil =>
    cases before
    exact ⟨congrArg Prod.snd last, congrArg Prod.fst last⟩
  | cons first rest ih => exact ⟨before.1, ih _ before.2⟩

/-- Operations in the order in which they finished respect real time. -/
theorem respectsRealTime_of_finishing (order : List (Operation ι ο))
    (sorted : order.Pairwise fun first second => first.finishedAt ≤ second.finishedAt)
    (proper : ∀ op ∈ order, op.begunAt ≤ op.finishedAt) : RespectsRealTime order := by
  refine sorted.imp_of_mem fun {first second} member _ ordered => ?_
  exact Nat.not_lt.mpr (Nat.le_trans (proper first member) ordered)

/-- A predicate on the object's state that every operation keeps holds at the end. -/
theorem replays_invariant (object : σ → ι → σ × ο) (I : σ → Prop)
    (order : List (Operation ι ο)) (kept : ∀ s, ∀ op ∈ order, I s → I (object s op.input).1)
    (s final : σ) (replays : Replays object s order final) (holds : I s) : I final := by
  induction order generalizing s with
  | nil =>
    cases replays
    exact holds
  | cons op rest ih =>
    exact ih (fun s op member => kept s op (List.mem_cons_of_mem _ member)) _ replays.2
      (kept s op List.mem_cons_self holds)

end FlashSaleLab.Linearizability
