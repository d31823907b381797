import Mathlib.Data.List.Forall2
import Mathlib.Data.List.Nodup
import Mathlib.Algebra.GroupWithZero.Nat

/-!
# Lists as growing tables

Rows are never removed and a row's position is its key, so a new row's key is fresh. What
a lookup finds after a row was added, replaced or changed.
-/
namespace FlashSaleLab.Registry

variable {α : Type} {rows : List α} {row new : α} {i j : Nat}

/-- The row found after one was added is an old row or the new one. -/
theorem of_added (found : (rows ++ [new])[i]? = some row) :
    rows[i]? = some row ∨ (i = rows.length ∧ row = new) := by
  rcases Nat.lt_trichotomy i rows.length with old | fresh | beyond
  · rw [List.getElem?_append_left old] at found
    exact Or.inl found
  · subst fresh
    simp only [List.getElem?_concat_length, Option.some.injEq] at found
    exact Or.inr ⟨rfl, found.symm⟩
  · rw [List.getElem?_eq_none (by simp; omega)] at found
    cases found

theorem added_of (found : rows[i]? = some row) : (rows ++ [new])[i]? = some row :=
  List.getElem?_append_left (List.getElem?_eq_some_iff.mp found).1 ▸ found

theorem lt_of_found (found : rows[i]? = some row) : i < rows.length :=
  (List.getElem?_eq_some_iff.mp found).1

/-- The row found after row `i` was replaced is the new one at `i` or an old one elsewhere. -/
theorem of_set (found : (rows.set i new)[j]? = some row) :
    (j = i ∧ row = new) ∨ (j ≠ i ∧ rows[j]? = some row) := by
  rw [List.getElem?_set] at found
  split at found
  next same =>
    split at found
    · exact Or.inl ⟨same.symm, (Option.some.inj found).symm⟩
    · cases found
  next other => exact Or.inr ⟨fun same => other same.symm, found⟩

theorem set_self (found : rows[i]? = some row) : (rows.set i new)[i]? = some new := by
  rw [List.getElem?_set_self (lt_of_found found)]

theorem set_other (other : j ≠ i) : (rows.set i new)[j]? = rows[j]? :=
  List.getElem?_set_ne fun same => other same.symm

theorem of_map {β : Type} {f : α → β} {image : β} (found : (rows.map f)[i]? = some image) :
    ∃ row, rows[i]? = some row ∧ f row = image := by
  rw [List.getElem?_map] at found
  exact Option.map_eq_some_iff.mp found

/-- The row found after row `i` was modified. -/
theorem of_modify {f : α → α} (found : (rows.modify i f)[j]? = some row) :
    ∃ old, rows[j]? = some old ∧ row = if j = i then f old else old := by
  rw [List.getElem?_modify] at found
  obtain ⟨old, present, image⟩ := Option.map_eq_some_iff.mp found
  refine ⟨old, present, ?_⟩
  rw [← image]
  by_cases same : i = j
  · simp [same]
  · simp [same, Ne.symm same]

theorem modify_of {f : α → α} (found : rows[j]? = some row) :
    (rows.modify i f)[j]? = some (if j = i then f row else row) := by
  rw [List.getElem?_modify, found]
  by_cases same : i = j
  · simp [same]
  · simp [same, Ne.symm same]

/-- Distinct keys make a lookup by key the search for the row. -/
theorem find?_key {κ : Type} [DecidableEq κ] {key : α → κ} (distinct : (rows.map key).Nodup)
    {k : κ} : rows.find? (fun row => key row = k) = some row ↔ row ∈ rows ∧ key row = k := by
  constructor
  · intro found
    exact ⟨List.mem_of_find?_eq_some found, by simpa using List.find?_some found⟩
  · rintro ⟨member, rfl⟩
    cases first : rows.find? fun other => key other = key row with
    | none => simpa using List.find?_eq_none.mp first row member
    | some other =>
      have same : key other = key row := by simpa using List.find?_some first
      rw [List.inj_on_of_nodup_map distinct (List.mem_of_find?_eq_some first) member same]

/-- If no two keys have rows with the property, one row has it at most. -/
theorem countP_le_one {p : α → Bool} (alone : ∀ (i j : Nat) (x y : α), rows[i]? = some x →
    rows[j]? = some y → p x = true → p y = true → i = j) : rows.countP p ≤ 1 := by
  induction rows with
  | nil => exact Nat.zero_le 1
  | cons head tail ih =>
    rw [List.countP_cons]
    split
    next holds =>
      have none_ : tail.countP p = 0 := by
        rw [List.countP_eq_zero]
        intro y member also
        obtain ⟨j, found⟩ := List.mem_iff_getElem?.mp member
        have same := alone 0 (j + 1) head y rfl found holds also
        omega
      omega
    next =>
      apply ih
      intro i j x y found found' holds also
      have same := alone (i + 1) (j + 1) x y found found' holds also
      omega

/-- Rows that count count already where they come from, and there are no others. -/
theorem countP_le_of {p : α → Bool} {later : List α} (known : ∀ (i : Nat) (y : α),
    later[i]? = some y → p y = true → ∃ x, rows[i]? = some x ∧ p x = true) :
    later.countP p ≤ rows.countP p := by
  induction later generalizing rows with
  | nil => exact Nat.zero_le _
  | cons y later ih =>
    cases rows with
    | nil =>
      have none_ : (y :: later).countP p = 0 := by
        rw [List.countP_eq_zero]
        intro z member holds
        obtain ⟨i, found⟩ := List.mem_iff_getElem?.mp member
        obtain ⟨x, absent, _⟩ := known i z found holds
        cases absent
      exact Nat.le_of_eq none_
    | cons x rows =>
      have rest : later.countP p ≤ rows.countP p := ih fun i z found => known (i + 1) z found
      have first : p y = true → p x = true := by
        intro holds
        obtain ⟨x', found, also⟩ := known 0 y rfl holds
        cases found
        exact also
      rw [List.countP_cons, List.countP_cons]
      by_cases holds : p y = true
      · simp only [holds, first holds, if_true]
        omega
      · simp only [holds, Bool.false_eq_true, if_false]
        omega

/-- A change that `g` does not see. -/
theorem filterMap_modify {β : Type} {g : α → Option β} {f : α → α} (same : ∀ x, g (f x) = g x)
    (rows : List α) (i : Nat) : (rows.modify i f).filterMap g = rows.filterMap g := by
  induction rows generalizing i with
  | nil => simp
  | cons head rows ih =>
    cases i with
    | zero => simp [List.filterMap_cons, same]
    | succ i => simp [List.filterMap_cons, ih]

/-- Changing one row adds one at most. -/
theorem countP_modify_le {p : α → Bool} {f : α → α} :
    (rows.modify i f).countP p ≤ rows.countP p + 1 := by
  induction rows generalizing i with
  | nil => simp
  | cons x rows ih =>
    cases i with
    | zero =>
      simp only [List.modify_zero_cons, List.countP_cons]
      split <;> split <;> omega
    | succ i =>
      have rest := ih (i := i)
      simp only [List.modify_succ_cons, List.countP_cons]
      omega

/-- The size of row `i`; a row that is still to come has size `missing`. -/
def sizeAt (size : α → Nat) (missing : Nat) (rows : List α) (i : Nat) : Nat :=
  match rows[i]? with
  | some row => size row
  | none => missing

section SizeAt

variable {size : α → Nat} {missing : Nat}

theorem sizeAt_self {paid : Nat} (found : rows[i]? = some row)
    (pays : size new + paid ≤ size row) :
    sizeAt size missing (rows.set i new) i + paid ≤ sizeAt size missing rows i := by
  simpa only [sizeAt, set_self found, found] using pays

theorem sizeAt_added (small : size new ≤ missing) :
    sizeAt size missing (rows ++ [new]) i ≤ sizeAt size missing rows i := by
  rcases Nat.lt_trichotomy i rows.length with old | rfl | beyond
  · simp [sizeAt, List.getElem?_append_left old]
  · simpa [sizeAt] using small
  · simp [sizeAt, List.getElem?_eq_none (Nat.le_of_lt beyond),
      List.getElem?_eq_none (l := rows ++ [new]) (i := i) (by simp; omega)]

theorem sizeAt_other (other : j ≠ i) :
    sizeAt size missing (rows.set i new) j = sizeAt size missing rows j := by
  simp only [sizeAt, set_other other]

theorem sizeAt_map {f : α → α} (small : ∀ x, size (f x) ≤ size x) :
    sizeAt size missing (rows.map f) i ≤ sizeAt size missing rows i := by
  simp only [sizeAt, List.getElem?_map]
  cases rows[i]? with
  | none => exact Nat.le_refl _
  | some row => exact small row

end SizeAt

section Paired

variable {β : Type} {R : α → β → Prop} {others : List β}

/-- Tables that correspond row by row count alike. -/
theorem countP_forall₂ {p : α → Bool} {q : β → Bool} (related : List.Forall₂ R rows others)
    (agree : ∀ x y, R x y → p x = q y) : rows.countP p = others.countP q := by
  induction related with
  | nil => rfl
  | cons head _ ih => simp only [List.countP_cons, ih, agree _ _ head]

/-- Tables that correspond row by row agree on what corresponds. -/
theorem map_forall₂ {κ : Type} (key : α → κ) (image : β → κ)
    (related : List.Forall₂ R rows others) (agree : ∀ x y, R x y → key x = image y) :
    rows.map key = others.map image := by
  induction related with
  | nil => rfl
  | cons head _ ih => simp only [List.map_cons, ih, agree _ _ head]

theorem forall₂_mem_right (related : List.Forall₂ R rows others) {y : β} (member : y ∈ others) :
    ∃ x ∈ rows, R x y := by
  induction related with
  | nil => cases member
  | @cons x _ _ _ head _ ih =>
    rcases List.mem_cons.mp member with rfl | tail
    · exact ⟨x, List.mem_cons_self, head⟩
    · obtain ⟨x', present, holds⟩ := ih tail
      exact ⟨x', List.mem_cons_of_mem _ present, holds⟩

theorem forall₂_mem_left (related : List.Forall₂ R rows others) {x : α} (member : x ∈ rows) :
    ∃ y ∈ others, R x y :=
  forall₂_mem_right related.flip member

end Paired

end FlashSaleLab.Registry
