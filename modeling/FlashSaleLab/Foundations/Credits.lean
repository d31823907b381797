import Mathlib.Data.Finset.Card

/-!
# Credits

Parties earn credits one at a time and spend each at most once; a party may also lose its
credit. Whatever they do, no more is spent than was earned.
-/
namespace FlashSaleLab

/-- `holds k` tells that party `k` has a credit it has not spent. -/
def Credits {κ : Type} (earned spent : Nat) (holds : κ → Prop) : Prop :=
  ∃ holders : Finset κ, (∀ k, holds k → k ∈ holders) ∧ spent + holders.card ≤ earned

namespace Credits

variable {κ : Type} {earned spent : Nat} {holds holds' : κ → Prop}

theorem empty (nothing : ∀ k, ¬holds k) : Credits 0 0 holds :=
  ⟨∅, fun k held => absurd held (nothing k), by simp⟩

theorem drop (credits : Credits earned spent holds) (fewer : ∀ k, holds' k → holds k) :
    Credits earned spent holds' := by
  obtain ⟨holders, listed, balance⟩ := credits
  exact ⟨holders, fun k held => listed k (fewer k held), balance⟩

theorem earn (credits : Credits earned spent holds) (k : κ)
    (more : ∀ l, holds' l → l = k ∨ holds l) : Credits (earned + 1) spent holds' := by
  classical
  obtain ⟨holders, listed, balance⟩ := credits
  refine ⟨insert k holders, fun l held => ?_, ?_⟩
  · rcases more l held with rfl | before
    · exact Finset.mem_insert_self _ _
    · exact Finset.mem_insert_of_mem (listed l before)
  · have := Finset.card_insert_le k holders
    omega

theorem spend (credits : Credits earned spent holds) {k : κ} (held : holds k)
    (gone : ∀ l, holds' l → l ≠ k ∧ holds l) : Credits earned (spent + 1) holds' := by
  classical
  obtain ⟨holders, listed, balance⟩ := credits
  refine ⟨holders.erase k, fun l stillHeld => ?_, ?_⟩
  · obtain ⟨other, before⟩ := gone l stillHeld
    exact Finset.mem_erase.mpr ⟨other, listed l before⟩
  · have := Finset.card_erase_add_one (listed k held)
    omega

theorem spent_le (credits : Credits earned spent holds) : spent ≤ earned := by
  obtain ⟨holders, _, balance⟩ := credits
  omega

end Credits

end FlashSaleLab
