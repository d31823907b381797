import Mathlib.Logic.Function.Basic
import Mathlib.Data.List.Basic

/-!
# Numbers drawn from a counter

A party draws the counter's next number, holds it for a while, and then publishes it or
drops it. However the parties interleave, no number is ever published twice or held by
two of them.
-/
namespace FlashSaleLab

/-- `held k` is the number party `k` has drawn and not yet published. -/
structure Tickets {κ : Type} (next : Nat) (published : List Nat) (held : κ → Option Nat) :
    Prop where
  published_lt : ∀ n ∈ published, n < next
  held_lt : ∀ k n, held k = some n → n < next
  nodup : published.Nodup
  unpublished : ∀ k n, held k = some n → n ∉ published
  injective : ∀ k l n, held k = some n → held l = some n → k = l

namespace Tickets

variable {κ : Type} {next : Nat} {published : List Nat} {held held' : κ → Option Nat}

theorem empty (next : Nat) (nothing : ∀ k, held k = none) : Tickets next [] held where
  published_lt := by simp
  held_lt := by simp [nothing]
  nodup := List.nodup_nil
  unpublished := by simp [nothing]
  injective := by simp [nothing]

/-- Numbers may be dropped and the holders may only lose numbers. -/
theorem drop (tickets : Tickets next published held)
    (fewer : ∀ k n, held' k = some n → held k = some n) : Tickets next published held' where
  published_lt := tickets.published_lt
  held_lt k n h := tickets.held_lt k n (fewer k n h)
  nodup := tickets.nodup
  unpublished k n h := tickets.unpublished k n (fewer k n h)
  injective k l n hk hl := tickets.injective k l n (fewer k n hk) (fewer l n hl)

/-- Party `k` draws the next number. -/
theorem draw (tickets : Tickets next published held) (k : κ)
    (drawn : ∀ l n, held' l = some n → (l = k ∧ n = next) ∨ (l ≠ k ∧ held l = some n)) :
    Tickets (next + 1) published held' where
  published_lt n member := Nat.lt_succ_of_lt (tickets.published_lt n member)
  held_lt l n h := by
    rcases drawn l n h with ⟨_, rfl⟩ | ⟨_, old⟩
    · exact Nat.lt_succ_self _
    · exact Nat.lt_succ_of_lt (tickets.held_lt l n old)
  nodup := tickets.nodup
  unpublished l n h := by
    rcases drawn l n h with ⟨_, rfl⟩ | ⟨_, old⟩
    · exact fun member => Nat.lt_irrefl _ (tickets.published_lt _ member)
    · exact tickets.unpublished l n old
  injective l m n hl hm := by
    rcases drawn l n hl with ⟨rfl, rfl⟩ | ⟨_, oldL⟩
    · rcases drawn m _ hm with ⟨rfl, _⟩ | ⟨_, oldM⟩
      · rfl
      · exact absurd (tickets.held_lt m _ oldM) (Nat.lt_irrefl _)
    · rcases drawn m n hm with ⟨_, rfl⟩ | ⟨_, oldM⟩
      · exact absurd (tickets.held_lt l _ oldL) (Nat.lt_irrefl _)
      · exact tickets.injective l m n oldL oldM

/-- Party `k` publishes its number. -/
theorem publish (tickets : Tickets next published held) {k : κ} {n : Nat}
    (holds : held k = some n)
    (kept : ∀ l m, held' l = some m → l ≠ k ∧ held l = some m) :
    Tickets next (published ++ [n]) held' where
  published_lt m member := by
    rcases List.mem_append.mp member with old | new
    · exact tickets.published_lt m old
    · rw [List.mem_singleton.mp new]
      exact tickets.held_lt k n holds
  held_lt l m h := tickets.held_lt l m (kept l m h).2
  nodup := by
    refine List.nodup_append.mpr ⟨tickets.nodup, by simp, ?_⟩
    intro a member b single
    rw [List.mem_singleton.mp single]
    rintro rfl
    exact tickets.unpublished k _ holds member
  unpublished l m h := by
    obtain ⟨other, old⟩ := kept l m h
    intro member
    rcases List.mem_append.mp member with before | now
    · exact tickets.unpublished l m old before
    · rw [List.mem_singleton.mp now] at old
      exact other (tickets.injective l k n old holds)
  injective l m a hl hm := tickets.injective l m a (kept l a hl).2 (kept m a hm).2

end Tickets

/-- A number that was drawn and that nobody holds or has published. -/
structure Dropped {κ : Type} (next : Nat) (published : List Nat) (held : κ → Option Nat)
    (n : Nat) : Prop where
  lt : n < next
  unpublished : n ∉ published
  free : ∀ k, held k ≠ some n

namespace Dropped

variable {κ : Type} {next n : Nat} {published : List Nat} {held held' : κ → Option Nat}

theorem drop (dropped : Dropped next published held n)
    (fewer : ∀ k m, held' k = some m → held k = some m) : Dropped next published held' n where
  lt := dropped.lt
  unpublished := dropped.unpublished
  free k holds := dropped.free k (fewer k n holds)

/-- The counter has passed it, so it is not drawn again. -/
theorem draw (dropped : Dropped next published held n)
    (drawn : ∀ k m, held' k = some m → m = next ∨ held k = some m) :
    Dropped (next + 1) published held' n where
  lt := Nat.lt_succ_of_lt dropped.lt
  unpublished := dropped.unpublished
  free k holds := by
    rcases drawn k n holds with rfl | before
    · exact Nat.lt_irrefl _ dropped.lt
    · exact dropped.free k before

theorem publish (dropped : Dropped next published held n) {k : κ} {m : Nat}
    (holds : held k = some m) (kept : ∀ l a, held' l = some a → held l = some a) :
    Dropped next (published ++ [m]) held' n where
  lt := dropped.lt
  unpublished member := by
    rcases List.mem_append.mp member with old | new
    · exact dropped.unpublished old
    · rw [List.mem_singleton.mp new] at dropped
      exact dropped.free k holds
  free l holds := dropped.free l (kept l n holds)

/-- A holder that lets its number go without publishing it drops it. -/
theorem of_released (tickets : Tickets next published held) {k : κ} (holds : held k = some n)
    (gone : ∀ l m, held' l = some m → l ≠ k ∧ held l = some m) :
    Dropped next published held' n where
  lt := tickets.held_lt k n holds
  unpublished := tickets.unpublished k n holds
  free l still := (gone l n still).1 (tickets.injective l k n (gone l n still).2 holds)

end Dropped

end FlashSaleLab
