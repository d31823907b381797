import Mathlib.Logic.Function.Basic

/-!
# Key-value stores whose entries expire

An entry is visible strictly before its expiry time and gone from then on. Dead
entries are not removed: a read at a later time simply does not see them, so a
write that only succeeds on an absent key may overwrite one.
-/
namespace FlashSaleLab

structure Expiring (ν : Type) where
  value : ν
  expiresAt : Nat

/-- At most one entry for each key. -/
def ExpiringStore (κ ν : Type) : Type := κ → Option (Expiring ν)

namespace ExpiringStore

variable {κ ν : Type}

def empty : ExpiringStore κ ν := fun _ => none

/-- The entry a command executed at time `now` sees under `key`. -/
def live (store : ExpiringStore κ ν) (now : Nat) (key : κ) : Option (Expiring ν) :=
  (store key).filter fun entry => decide (now < entry.expiresAt)

def get (store : ExpiringStore κ ν) (now : Nat) (key : κ) : Option ν :=
  (store.live now key).map (·.value)

section Writes

variable [DecidableEq κ]

def set (store : ExpiringStore κ ν) (now : Nat) (key : κ) (value : ν) (ttl : Nat) :
    ExpiringStore κ ν :=
  Function.update store key (some ⟨value, now + ttl⟩)

def del (store : ExpiringStore κ ν) (key : κ) : ExpiringStore κ ν :=
  Function.update store key none

/-- Set only when no live entry is there; the flag says whether it did. -/
def setIfAbsent (store : ExpiringStore κ ν) (now : Nat) (key : κ) (value : ν) (ttl : Nat) :
    ExpiringStore κ ν × Bool :=
  match store.live now key with
  | some _ => (store, false)
  | none => (store.set now key value ttl, true)

end Writes

theorem live_eq_some_iff {store : ExpiringStore κ ν} {now : Nat} {key : κ} {entry : Expiring ν} :
    store.live now key = some entry ↔ store key = some entry ∧ now < entry.expiresAt := by
  simp [live, Option.filter_eq_some_iff]

theorem live_eq_none_iff {store : ExpiringStore κ ν} {now : Nat} {key : κ} :
    store.live now key = none ↔ ∀ entry, store key = some entry → entry.expiresAt ≤ now := by
  simp [live, Option.filter_eq_none_iff]

theorem get_eq_none_iff {store : ExpiringStore κ ν} {now : Nat} {key : κ} :
    store.get now key = none ↔ store.live now key = none := by
  simp [get]

section Writes

variable [DecidableEq κ] (store : ExpiringStore κ ν) (now : Nat) (key : κ) (value : ν) (ttl : Nat)

@[simp] theorem set_self : store.set now key value ttl key = some ⟨value, now + ttl⟩ :=
  Function.update_self ..

@[simp] theorem set_of_ne {other : κ} (ne : other ≠ key) :
    store.set now key value ttl other = store other :=
  Function.update_of_ne ne ..

@[simp] theorem del_self : store.del key key = none :=
  Function.update_self ..

@[simp] theorem del_of_ne {other : κ} (ne : other ≠ key) : store.del key other = store other :=
  Function.update_of_ne ne ..

/-- A conditional write either met a live entry and changed nothing, or met none
and stored the new one. -/
theorem setIfAbsent_cases :
    (∃ entry, store.live now key = some entry ∧
      store.setIfAbsent now key value ttl = (store, false)) ∨
    (store.live now key = none ∧
      store.setIfAbsent now key value ttl = (store.set now key value ttl, true)) := by
  unfold setIfAbsent
  cases seen : store.live now key with
  | some entry => exact Or.inl ⟨entry, rfl, rfl⟩
  | none => exact Or.inr ⟨rfl, rfl⟩

end Writes

end ExpiringStore

end FlashSaleLab
