import Mathlib.Data.List.Basic

/-!
# Publishes that wait for the broker's verdict

In confirm mode the broker answers every publish once, with a confirm or a nack, in any order.
A wait covers the publishes that were outstanding when it was called. It succeeds only when all
of them are confirmed and fails only when one of them is nacked.
-/
namespace FlashSaleLab

inductive Verdict where
  | confirmed
  | nacked
  deriving DecidableEq

structure Publish (β : Type) where
  payload : β
  verdict : Option Verdict

/-- A publish's number is its position. -/
abbrev ConfirmLog (β : Type) : Type := List (Publish β)

namespace ConfirmLog

variable {β : Type}

def verdict (log : ConfirmLog β) (id : Nat) : Option Verdict := (log[id]?).bind (·.verdict)

def publish (log : ConfirmLog β) (payload : β) : ConfirmLog β := log ++ [⟨payload, none⟩]

/-- The broker's answer to a publish that has none yet. -/
def answer (log : ConfirmLog β) (id : Nat) (verdict : Verdict) : Option (ConfirmLog β) :=
  match log[id]? with
  | some publish =>
    if publish.verdict = none then some (log.set id ⟨publish.payload, some verdict⟩) else none
  | none => none

def outstanding (log : ConfirmLog β) : List Nat :=
  (List.range log.length).filter fun id => decide (log.verdict id = none)

/-- The wait for these publishes may end in success. -/
def Resolves (log : ConfirmLog β) (awaited : List Nat) : Prop :=
  ∀ id ∈ awaited, log.verdict id = some .confirmed

/-- It may end in failure. -/
def Rejects (log : ConfirmLog β) (awaited : List Nat) : Prop :=
  ∃ id ∈ awaited, log.verdict id = some .nacked

instance (log : ConfirmLog β) (awaited : List Nat) : Decidable (log.Resolves awaited) :=
  inferInstanceAs (Decidable (∀ id ∈ awaited, log.verdict id = some .confirmed))

instance (log : ConfirmLog β) (awaited : List Nat) : Decidable (log.Rejects awaited) :=
  inferInstanceAs (Decidable (∃ id ∈ awaited, log.verdict id = some .nacked))

/-- Publishes stay, and verdicts are final. -/
def Extends (log' log : ConfirmLog β) : Prop :=
  ∀ (id : Nat) (publish : Publish β), log[id]? = some publish →
    ∃ publish' : Publish β, log'[id]? = some publish' ∧ publish'.payload = publish.payload ∧
      ∀ verdict, publish.verdict = some verdict → publish'.verdict = some verdict

variable {log log' : ConfirmLog β} {awaited : List Nat} {id : Nat}

@[simp] theorem Extends.refl (log : ConfirmLog β) : log.Extends log :=
  fun _ publish present => ⟨publish, present, rfl, fun _ given => given⟩

theorem Extends.verdict {verdict : Verdict} (further : log'.Extends log)
    (given : log.verdict id = some verdict) : log'.verdict id = some verdict := by
  obtain ⟨publish, present, judged⟩ := Option.bind_eq_some_iff.mp given
  obtain ⟨publish', still, _, final⟩ := further id publish present
  exact Option.bind_eq_some_iff.mpr ⟨publish', still, final verdict judged⟩

theorem extends_publish (payload : β) : (log.publish payload).Extends log := by
  intro id publish present
  have old : id < log.length := (List.getElem?_eq_some_iff.mp present).1
  refine ⟨publish, ?_, rfl, fun _ given => given⟩
  rw [ConfirmLog.publish, List.getElem?_append_left old, present]

/-- A new publish has no verdict yet. -/
@[simp] theorem verdict_publish (payload : β) :
    (log.publish payload).verdict id = log.verdict id := by
  unfold ConfirmLog.verdict ConfirmLog.publish
  rcases Nat.lt_trichotomy id log.length with old | new | beyond
  · rw [List.getElem?_append_left old]
  · subst new
    simp
  · rw [List.getElem?_eq_none (by simp; omega), List.getElem?_eq_none (by omega)]

/-- An answer is noted down for its publish and for no other. -/
theorem verdict_answer {verdict : Verdict} (answered : log.answer id verdict = some log') :
    log.verdict id = none ∧ ∀ other, log'.verdict other =
      if other = id then some verdict else log.verdict other := by
  unfold answer at answered
  split at answered
  next publish present =>
    split at answered
    next pending =>
      cases answered
      refine ⟨by simp [ConfirmLog.verdict, present, pending], fun other => ?_⟩
      by_cases same : other = id
      · subst same
        have old : other < log.length := (List.getElem?_eq_some_iff.mp present).1
        simp [ConfirmLog.verdict, List.getElem?_set_self old]
      · have ne : id ≠ other := fun h => same h.symm
        simp [ConfirmLog.verdict, List.getElem?_set_ne ne, same]
    · cases answered
  · cases answered

theorem extends_answer {verdict : Verdict} (answered : log.answer id verdict = some log') :
    log'.Extends log := by
  unfold answer at answered
  split at answered
  next publish present =>
    split at answered
    next pending =>
      cases answered
      intro other old found
      by_cases same : other = id
      · subst same
        cases present.symm.trans found
        have bound : other < log.length := (List.getElem?_eq_some_iff.mp present).1
        refine ⟨⟨publish.payload, some verdict⟩, List.getElem?_set_self bound, rfl, ?_⟩
        intro given judged
        cases pending.symm.trans judged
      · have ne : id ≠ other := fun h => same h.symm
        exact ⟨old, by rw [List.getElem?_set_ne ne, found], rfl, fun _ given => given⟩
    · cases answered
  · cases answered

theorem Resolves.mono (further : log'.Extends log) (resolves : log.Resolves awaited) :
    log'.Resolves awaited :=
  fun id member => further.verdict (resolves id member)

theorem Rejects.mono (further : log'.Extends log) (rejects : log.Rejects awaited) :
    log'.Rejects awaited := by
  obtain ⟨id, member, nacked⟩ := rejects
  exact ⟨id, member, further.verdict nacked⟩

/-- A wait cannot end both ways. -/
theorem Resolves.not_rejects (resolves : log.Resolves awaited) : ¬log.Rejects awaited := by
  rintro ⟨id, member, nacked⟩
  cases nacked.symm.trans (resolves id member)

/-- Once every awaited publish is answered the wait can end. -/
theorem resolves_or_rejects (answered : ∀ id ∈ awaited, log.verdict id ≠ none) :
    log.Resolves awaited ∨ log.Rejects awaited := by
  by_cases nacked : log.Rejects awaited
  · exact Or.inr nacked
  · refine Or.inl fun id member => ?_
    cases judged : log.verdict id with
    | none => exact absurd judged (answered id member)
    | some verdict =>
      cases verdict with
      | confirmed => rfl
      | nacked => exact absurd ⟨id, member, judged⟩ nacked

theorem mem_outstanding : id ∈ log.outstanding ↔ id < log.length ∧ log.verdict id = none := by
  simp [outstanding]

theorem get_published (payload : β) :
    (log.publish payload)[log.length]? = some ⟨payload, none⟩ :=
  List.getElem?_concat_length

/-- A wait called right after a publish covers it. -/
theorem published_outstanding (payload : β) : log.length ∈ (log.publish payload).outstanding := by
  rw [mem_outstanding]
  simp [ConfirmLog.verdict, ConfirmLog.publish]

end ConfirmLog

end FlashSaleLab
