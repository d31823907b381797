import Mathlib.Data.Option.Basic

/-!
# A lock that is a lease

A shared entry names its owner and the time it ends. A party may take the lock when no entry
is in force, and gives it up by removing whatever entry is there. The entry carries no proof
of ownership, so a party that removes it late may remove another's. As long as nobody does,
a party within its lease owns the entry.
-/
namespace FlashSaleLab

/-- `holds k` is the time at which party `k` took the lock, while it believes to have it. -/
structure LeaseLock {κ : Type} (ttl now : Nat) (entry : Option (κ × Nat))
    (holds : κ → Option Nat) : Prop where
  owns : ∀ k taken, holds k = some taken → now < taken + ttl → entry = some (k, taken + ttl)

namespace LeaseLock

variable {κ : Type} {ttl now later : Nat} {entry : Option (κ × Nat)} {holds holds' : κ → Option Nat}

theorem empty (nothing : ∀ k, holds k = none) : LeaseLock ttl now entry holds where
  owns k taken held _ := by
    rw [nothing k] at held
    cases held

/-- Time passes and parties stop believing. -/
theorem drop (lock : LeaseLock ttl now entry holds) (le : now ≤ later)
    (fewer : ∀ k taken, holds' k = some taken → holds k = some taken) :
    LeaseLock ttl later entry holds' where
  owns k taken held within := lock.owns k taken (fewer k taken held) (Nat.lt_of_le_of_lt le within)

/-- Party `k` takes the lock; it need not learn that it did. -/
theorem take (lock : LeaseLock ttl now entry holds) (k : κ)
    (free : ∀ owner until_, entry = some (owner, until_) → until_ ≤ now)
    (more : ∀ l taken, holds' l = some taken → (l = k ∧ taken = now) ∨ holds l = some taken) :
    LeaseLock ttl now (some (k, now + ttl)) holds' where
  owns l taken held within := by
    rcases more l taken held with ⟨rfl, rfl⟩ | before
    · rfl
    · -- a party within its lease would have kept the entry in force
      have own := lock.owns l taken before within
      have ended := free l (taken + ttl) own
      omega

/-- Within their leases there is at most one of them. -/
theorem exclusive (lock : LeaseLock ttl now entry holds) {k l : κ} {taken time : Nat}
    (mine : holds k = some taken) (within : now < taken + ttl)
    (theirs : holds l = some time) (inForce : now < time + ttl) : k = l := by
  have owned := lock.owns k taken mine within
  rw [lock.owns l time theirs inForce] at owned
  simpa [eq_comm] using congrArg (Option.map Prod.fst) owned

/-- Party `k` removes the entry while no other party is within its lease. -/
theorem release (k : κ)
    (alone : ∀ l time, holds l = some time → now < time + ttl → l = k)
    (gone : ∀ l time, holds' l = some time → l ≠ k ∧ holds l = some time) :
    LeaseLock ttl now none holds' where
  owns l time held within := by
    obtain ⟨other, before⟩ := gone l time held
    exact absurd (alone l time before within) other

/-- Leases met in force at times at least their length apart were taken one after the other. -/
theorem spaced {ρ : Type} {taken met : ρ → Nat} {delay : Nat} {meetings : List ρ}
    (long : ttl ≤ delay) (inForce : ∀ r ∈ meetings, taken r ≤ met r ∧ met r < taken r + ttl)
    (apart : meetings.Pairwise fun later earlier => met earlier + delay ≤ met later) :
    meetings.Pairwise fun later earlier => taken earlier < taken later := by
  refine apart.imp_of_mem fun {later earlier} memberLater memberEarlier gap => ?_
  have old := (inForce earlier memberEarlier).1
  have new := (inForce later memberLater).2
  -- the earlier lease was over before the later one was met
  omega

end LeaseLock

end FlashSaleLab
