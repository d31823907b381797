import FlashSaleLab.Foundations.Transition
import Mathlib.Algebra.BigOperators.Group.List.Basic
import Mathlib.Algebra.GroupWithZero.Nat
import Mathlib.Data.Set.Insert

/-!
# A ledger of sales

What a shop is for, without processes or failures: a sale takes its amount from what is left of an
item at once, and each sale is announced at some time after it. Identifiers and items are of any
type.
-/
namespace FlashSaleLab

open Transition

structure Sold (κ ι : Type) where
  id : κ
  item : ι
  amount : Nat
  deriving DecidableEq

/-- `sales` has the oldest sale first. -/
structure Ledger (κ ι : Type) where
  left : ι → Nat
  sales : List (Sold κ ι)
  announced : Set κ

inductive Entry (κ ι : Type) where
  | sell (sale : Sold κ ι)
  | announce (id : κ)

namespace Ledger

variable {κ ι : Type}

def ids (ledger : Ledger κ ι) : List κ := ledger.sales.map (·.id)

open Classical in
/-- The total amount of an item in a list of sales. -/
noncomputable def total (sales : List (Sold κ ι)) (item : ι) : Nat :=
  ((sales.filter (·.item = item)).map (·.amount)).sum

open Classical in
noncomputable def enter (ledger : Ledger κ ι) : Entry κ ι → Option (Ledger κ ι)
  | .sell sale =>
    if 0 < sale.amount ∧ sale.amount ≤ ledger.left sale.item ∧ sale.id ∉ ledger.ids then
      some { ledger with
        left := Function.update ledger.left sale.item (ledger.left sale.item - sale.amount)
        sales := ledger.sales ++ [sale] }
    else none
  | .announce id =>
    if id ∈ ledger.ids then some { ledger with announced := insert id ledger.announced } else none

/-- All books that start with this stock. -/
noncomputable def system (stock : ι → Nat) : System (Ledger κ ι) (Entry κ ι) where
  init ledger := ledger = ⟨stock, [], ∅⟩
  step := enter

def anyEntry (_ : Ledger κ ι) (_ : Entry κ ι) : Prop := True

/-- The books are in order. -/
structure Balanced (stock : ι → Nat) (ledger : Ledger κ ι) : Prop where
  balance : ∀ item, ledger.left item + total ledger.sales item = stock item
  distinct : ledger.ids.Nodup
  positive : ∀ sale ∈ ledger.sales, 0 < sale.amount
  announcements : ∀ id ∈ ledger.announced, id ∈ ledger.ids

section Steps

variable {stock : ι → Nat} {ledger ledger' : Ledger κ ι} {entry : Entry κ ι}

/-- What an entry does. -/
inductive Entered (ledger : Ledger κ ι) : Ledger κ ι → Prop
  | sold (sale : Sold κ ι) (positive : 0 < sale.amount)
      (enough : sale.amount ≤ ledger.left sale.item) (fresh : sale.id ∉ ledger.ids)
      (left : ι → Nat) (taken : left sale.item + sale.amount = ledger.left sale.item)
      (others : ∀ item, item ≠ sale.item → left item = ledger.left item) :
      Entered ledger { ledger with left, sales := ledger.sales ++ [sale] }
  | announced (id : κ) (known : id ∈ ledger.ids) :
      Entered ledger { ledger with announced := insert id ledger.announced }

theorem entered (taken : ledger.enter entry = some ledger') : Entered ledger ledger' := by
  cases entry with
  | sell sale =>
    simp only [enter] at taken
    split at taken
    next guards =>
      cases taken
      obtain ⟨positive, enough, fresh⟩ := guards
      refine .sold sale positive enough fresh _ ?_ ?_
      · simp only [Function.update_self]
        omega
      · intro item other
        exact dif_neg other
    · cases taken
  | announce id =>
    simp only [enter] at taken
    split at taken
    next known =>
      cases taken
      exact .announced id known
    · cases taken

/-- A sale by what it leaves. -/
theorem enter_sell {sale : Sold κ ι} {left : ι → Nat} (positive : 0 < sale.amount)
    (fresh : sale.id ∉ ledger.ids) (taken : left sale.item + sale.amount = ledger.left sale.item)
    (others : ∀ item, item ≠ sale.item → left item = ledger.left item) :
    ledger.enter (.sell sale) = some { ledger with left, sales := ledger.sales ++ [sale] } := by
  have enough : sale.amount ≤ ledger.left sale.item := by omega
  rw [enter, if_pos ⟨positive, enough, fresh⟩]
  congr 2
  funext item
  by_cases same : item = sale.item
  · subst same
    simp only [Function.update, dite_true]
    omega
  · exact (dif_neg same).trans (others item same).symm

theorem total_append (sales new : List (Sold κ ι)) (item : ι) :
    total (sales ++ new) item = total sales item + total new item := by
  simp [total]

theorem total_singleton_self (sale : Sold κ ι) : total [sale] sale.item = sale.amount := by
  simp [total]

theorem total_singleton_other {sale : Sold κ ι} {item : ι} (other : item ≠ sale.item) :
    total [sale] item = 0 := by
  simp [total, Ne.symm other]

/-- A sale moves its amount from what is left to what is sold. -/
theorem Entered.balance (entered : Entered ledger ledger') (item : ι) :
    ∃ new, ledger'.sales = ledger.sales ++ new ∧
      ledger'.left item + total new item = ledger.left item := by
  cases entered with
  | announced id known => exact ⟨[], by simp, by simp [total]⟩
  | sold sale positive enough fresh left taken others =>
    refine ⟨[sale], rfl, ?_⟩
    by_cases same : item = sale.item
    · subst same
      rw [total_singleton_self]
      exact taken
    · rw [total_singleton_other same, Nat.add_zero]
      exact others item same

theorem Balanced.step (balanced : Balanced stock ledger) (entered : Entered ledger ledger') :
    Balanced stock ledger' := by
  constructor
  · intro item
    obtain ⟨new, sales, left⟩ := entered.balance item
    have before := balanced.balance item
    rw [sales, total_append]
    omega
  · cases entered with
    | announced => exact balanced.distinct
    | sold sale positive enough fresh =>
      simp only [ids, List.map_append, List.map_cons, List.map_nil]
      refine List.nodup_append.mpr ⟨balanced.distinct, by simp, ?_⟩
      rintro id member _ single rfl
      cases List.mem_singleton.mp single
      exact fresh member
  · cases entered with
    | announced => exact balanced.positive
    | sold sale positive =>
      intro other member
      rcases List.mem_append.mp member with old | new
      · exact balanced.positive other old
      · rw [List.mem_singleton.mp new]
        exact positive
  · cases entered with
    | sold sale =>
      intro id member
      simp only [ids, List.map_append]
      exact List.mem_append_left _ (balanced.announcements id member)
    | announced id known =>
      rintro other (rfl | member)
      · exact known
      · exact balanced.announcements other member

end Steps

variable {stock : ι → Nat}

theorem balanced_invariant {allowed : Ledger κ ι → Entry κ ι → Prop} (ledger : Ledger κ ι)
    (reachable : (system stock).Reachable allowed ledger) : Balanced stock ledger := by
  apply reachable.invariant (I := Balanced stock)
  · rintro _ rfl
    exact ⟨fun item => by simp [total], List.nodup_nil, by simp, by simp⟩
  · exact fun _ _ _ _ balanced _ taken => balanced.step (entered taken)

/-- Between two looks at the books sales were added and announcements made, and what is missing of
an item was sold. -/
theorem between {allowed : Ledger κ ι → Entry κ ι → Prop} {ledger ledger' : Ledger κ ι}
    (steps : (system stock).Steps allowed ledger ledger') :
    ledger.announced ⊆ ledger'.announced ∧ ∃ new, ledger'.sales = ledger.sales ++ new ∧
      ∀ item, ledger'.left item + total new item = ledger.left item := by
  induction steps with
  | refl => exact ⟨subset_rfl, [], by simp, by simp [total]⟩
  | @tail middle final _ next ih =>
    obtain ⟨entry, _, taken⟩ := next
    obtain ⟨announced, new, sales, left⟩ := ih
    have last := entered taken
    constructor
    · cases last with
      | sold => exact announced
      | announced id known => exact announced.trans (Set.subset_insert _ _)
    · cases last with
      | announced id known => exact ⟨new, sales, left⟩
      | sold sale positive enough fresh left' taken' others =>
        refine ⟨new ++ [sale], by simp [sales], fun item => ?_⟩
        have before := left item
        rw [total_append]
        by_cases same : item = sale.item
        · subst same
          rw [total_singleton_self]
          change left' sale.item + _ = _
          omega
        · rw [total_singleton_other same]
          have kept := others item same
          change left' item + _ = _
          omega

end Ledger

end FlashSaleLab
