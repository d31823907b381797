import FlashSaleLab.Foundations.Registry
import FlashSaleLab.ProductService

/-!
# What a step does to the products, the cache and the calls

`Acts` lists the steps. `Later` is what any of them keeps: versions stay, what a call has noted
down stays, and an `updatePrice` that has returned does not change any more.
-/
namespace FlashSaleLab.ProductService

/-- Everything a step can do. -/
inductive Acts (s : ProductState) : ProductAction → ProductState → Prop
  | ticked (elapsed : Time) :
      Acts s (.tick elapsed) { s with now := s.now + elapsed, moment := s.moment + 1 }
  | findBegan (id : Int) :
      Acts s (.findById id)
        { s with
          finds := s.finds ++ [⟨id, .getting, stamp s, none, none⟩]
          moment := s.moment + 1 }
  | updateBegan (id price : Int) :
      Acts s (.updatePrice id price)
        { s with
          updates := s.updates ++ [⟨id, price, .updating, none, none, none⟩]
          moment := s.moment + 1 }
  | got (call : Nat) (find : FindCall) (result : CallResult) (found : s.finds[call]? = some find)
      (suspended : find.pc = .getting) :
      Acts s (.findSettles call result)
        { s with
          finds := s.finds.set call { find with
            pc := .got ((RedisService.get s.redis s.now (productKey find.id) result).map (·.text)) }
          moment := s.moment + 1 }
  | read (call : Nat) (find : FindCall) (result : CallResult) (found : s.finds[call]? = some find)
      (suspended : find.pc = .reading) :
      Acts s (.findSettles call result)
        { s with
          finds := s.finds.set call { find with
            pc := .read (result.settle (PrismaProductRepository.findById s.products find.id))
            read :=
              if result = .ok ∧ (PrismaProductRepository.findById s.products find.id).isSome then
                some (version s find.id, stamp s)
              else find.read }
          moment := s.moment + 1 }
  | filled (call : Nat) (find : FindCall) (product : Product) (result : CallResult)
      (found : s.finds[call]? = some find) (suspended : find.pc = .setting product) :
      Acts s (.findSettles call result)
        { s with
          redis := RedisService.set s.redis s.now (productKey find.id)
            ⟨.stringify product.toJson, call⟩ 60 result
          finds := s.finds.set call { find with
            pc := .stored product
            filled := if result.applied then some (stamp s) else find.filled }
          moment := s.moment + 1 }
  | findResumed (call : Nat) (find : FindCall) (pc : FindPc) (found : s.finds[call]? = some find)
      (resumed : resumeFind find.pc = some pc) :
      Acts s (.findResumes call)
        { s with finds := s.finds.set call { find with pc }, moment := s.moment + 1 }
  | committed (call : Nat) (update : UpdateCall) (product : Product) (result : CallResult)
      (found : s.updates[call]? = some update) (suspended : update.pc = .updating)
      (row : (s.products update.id).latest = some product) (applied : result.applied = true) :
      Acts s (.updateSettles call result)
        { s with
          products := Function.update s.products update.id
            ((s.products update.id).commit s.now { product with price := update.price })
          updates := s.updates.set call { update with
            pc := .updated (result.settle { product with price := update.price })
            version := some (s.products update.id).length }
          moment := s.moment + 1 }
  | updateFailed (call : Nat) (update : UpdateCall) (result : CallResult)
      (found : s.updates[call]? = some update) (suspended : update.pc = .updating) :
      Acts s (.updateSettles call result)
        { s with
          updates := s.updates.set call { update with pc := .updated .rejected }
          moment := s.moment + 1 }
  | invalidated (call : Nat) (update : UpdateCall) (product : Product) (result : CallResult)
      (found : s.updates[call]? = some update) (suspended : update.pc = .deleting product) :
      Acts s (.updateSettles call result)
        { s with
          redis := RedisService.del s.redis (productKey update.id) result
          updates := s.updates.set call { update with
            pc := .deleted product
            deleted := if result.applied then some (stamp s) else update.deleted }
          moment := s.moment + 1 }
  | updateResumed (call : Nat) (update : UpdateCall) (pc : UpdatePc)
      (found : s.updates[call]? = some update) (resumed : resumeUpdate update.pc = some pc)
      (open_ : ∀ product, pc ≠ .returned product) :
      Acts s (.updateResumes call)
        { s with updates := s.updates.set call { update with pc }, moment := s.moment + 1 }
  | updateReturned (call : Nat) (update : UpdateCall) (product : Product)
      (found : s.updates[call]? = some update) (suspended : update.pc = .deleted product) :
      Acts s (.updateResumes call)
        { s with
          updates := s.updates.set call { update with
            pc := .returned product
            returned := some (stamp s) }
          moment := s.moment + 1 }

variable {s s' : ProductState} {a : ProductAction}

theorem resumeUpdate_returned {pc : UpdatePc} {product : Product}
    (resumed : resumeUpdate pc = some (.returned product)) : pc = .deleted product := by
  cases pc with
  | updated reply => cases reply <;> cases resumed
  | deleted product =>
    cases resumed
    rfl
  | _ => cases resumed

theorem settleFind_acts {call : Nat} {find : FindCall} {result : CallResult}
    {t : ProductState} (found : s.finds[call]? = some find)
    (settled : settleFind s call find result = some t) :
    Acts s (.findSettles call result) { t with moment := s.moment + 1 } := by
  unfold settleFind at settled
  split at settled
  next suspended =>
    cases settled
    exact .got call find result found suspended
  next suspended =>
    cases settled
    exact .read call find result found suspended
  next product suspended =>
    cases settled
    exact .filled call find product result found suspended
  · cases settled

theorem settleUpdate_acts {call : Nat} {update : UpdateCall} {result : CallResult}
    {t : ProductState} (found : s.updates[call]? = some update)
    (settled : settleUpdate s call update result = some t) :
    Acts s (.updateSettles call result) { t with moment := s.moment + 1 } := by
  unfold settleUpdate at settled
  split at settled
  next suspended =>
    cases row : (s.products update.id).latest with
    | none =>
      simp only [PrismaProductRepository.updatePrice, row] at settled
      cases settled
      exact .updateFailed call update result found suspended
    | some product =>
      simp only [PrismaProductRepository.updatePrice, row] at settled
      split at settled
      next applied =>
        cases settled
        exact .committed call update product result found suspended row applied
      · -- nothing was committed
        cases settled
        exact .updateFailed call update result found suspended
  next product suspended =>
    cases settled
    exact .invalidated call update product result found suspended
  · cases settled

theorem step_acts (taken : step s a = some s') : Acts s a s' := by
  obtain ⟨t, acted, rfl⟩ := Option.map_eq_some_iff.mp taken
  cases a with
  | tick elapsed =>
    cases acted
    exact .ticked elapsed
  | findById id =>
    cases acted
    exact .findBegan id
  | updatePrice id price =>
    cases acted
    exact .updateBegan id price
  | findSettles call result =>
    simp only [act] at acted
    split at acted
    next find found => exact settleFind_acts found acted
    · cases acted
  | findResumes call =>
    simp only [act, resumesFind] at acted
    split at acted
    next find found =>
      obtain ⟨pc, resumed, rfl⟩ := Option.map_eq_some_iff.mp acted
      exact .findResumed call find pc found resumed
    · cases acted
  | updateSettles call result =>
    simp only [act] at acted
    split at acted
    next update found => exact settleUpdate_acts found acted
    · cases acted
  | updateResumes call =>
    simp only [act, resumesUpdate] at acted
    split at acted
    next update found =>
      split at acted
      next product resumed =>
        cases acted
        exact .updateReturned call update product found (resumeUpdate_returned resumed)
      next pc open_ resumed =>
        cases acted
        refine .updateResumed call update pc found resumed ?_
        rintro product rfl
        exact open_ product rfl
      · cases acted
    · cases acted

end FlashSaleLab.ProductService
