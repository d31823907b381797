import Mathlib.Data.List.Basic

/-!
# Version histories

The committed values of one cell, oldest first, each with the time of its commit. A reader sees
the latest version, and a version stays the latest until the next one is committed.
-/
namespace FlashSaleLab

structure Version (α : Type) where
  value : α
  committedAt : Nat

abbrev Versions (α : Type) : Type := List (Version α)

namespace Versions

variable {α : Type}

def commit (versions : Versions α) (now : Nat) (value : α) : Versions α :=
  versions ++ [⟨value, now⟩]

def value (versions : Versions α) (i : Nat) : Option α := (versions[i]?).map (·.value)

def latest (versions : Versions α) : Option α := versions.value (versions.length - 1)

/-- When version `i` stopped being the latest. -/
def supersededAt (versions : Versions α) (i : Nat) : Option Nat :=
  (versions[i + 1]?).map (·.committedAt)

/-- Version `i` is `value`, and a read at `time` may have seen it. -/
structure SeenAt (versions : Versions α) (i : Nat) (value : α) (time : Nat) : Prop where
  committed : versions.value i = some value
  current : ∀ superseded, versions.supersededAt i = some superseded → time ≤ superseded

variable {versions : Versions α} {i now time : Nat} {value new : α}

theorem value_lt (committed : versions.value i = some value) : i < versions.length := by
  obtain ⟨version, present, _⟩ := Option.map_eq_some_iff.mp committed
  exact (List.getElem?_eq_some_iff.mp present).1

theorem value_commit_of (committed : versions.value i = some value) :
    (versions.commit now new).value i = some value := by
  have old := value_lt committed
  unfold Versions.value commit at *
  rw [List.getElem?_append_left old]
  exact committed

@[simp] theorem value_commit_self :
    (versions.commit now new).value versions.length = some new := by
  simp [Versions.value, commit]

/-- A commit supersedes the version that was the latest, and no other. -/
theorem supersededAt_commit {superseded : Nat}
    (ended : (versions.commit now new).supersededAt i = some superseded) :
    versions.supersededAt i = some superseded ∨ superseded = now := by
  unfold supersededAt commit at *
  rcases Nat.lt_or_ge (i + 1) versions.length with old | beyond
  · rw [List.getElem?_append_left old] at ended
    exact Or.inl ended
  · right
    rw [List.getElem?_append_right beyond] at ended
    obtain ⟨version, present, rfl⟩ := Option.map_eq_some_iff.mp ended
    rw [List.mem_singleton.mp (List.mem_of_getElem? present)]

theorem SeenAt.of_latest (seen : versions.latest = some value) :
    versions.SeenAt (versions.length - 1) value now := by
  constructor
  · exact seen
  · intro superseded ended
    have length := value_lt seen
    have beyond : versions.length ≤ versions.length - 1 + 1 := by omega
    simp [supersededAt, List.getElem?_eq_none beyond] at ended

/-- What was seen stays the version it was, and was not superseded before it was seen. -/
theorem SeenAt.commit (seen : versions.SeenAt i value time) (past : time ≤ now) :
    (versions.commit now new).SeenAt i value time := by
  constructor
  · exact value_commit_of seen.committed
  · intro superseded ended
    rcases supersededAt_commit ended with old | rfl
    · exact seen.current superseded old
    · exact past

end Versions

end FlashSaleLab
