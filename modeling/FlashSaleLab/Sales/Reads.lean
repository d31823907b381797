import FlashSaleLab.ProductService
import FlashSaleLab.Sales.Origin
import FlashSaleLab.Shop

/-!
# What the reads show

`OrderService.findById` and `ProductService.findStockById` are one query each, on the committed
rows. An order is found from the `COMMIT` of its `create` on, whether the caller has been answered
by then or not, and two looks at a stock differ by what was sold in between.
-/
namespace FlashSaleLab

open OrderService PrismaOrderUnitOfWork Transition

inductive ReadError where
  | notFoundException (message : String)
  | database
  deriving DecidableEq

def PrismaOrderRepository.findById (orders : List Order) (id : Int) : Option Order :=
  orders.find? fun order => order.id = id

/-- `ok` is whether the query succeeds. -/
def OrderService.findById (db : Database) (id : Int) (ok : Bool) : Except ReadError Order :=
  if ok then
    match PrismaOrderRepository.findById db.orders id with
    | some order => .ok order
    | none => .error (.notFoundException "주문을 찾을 수 없습니다.")
  else .error .database

structure InventoryStock where
  productId : Int
  stock : Int
  deriving DecidableEq

def PrismaProductRepository.findStockById (inventory : Int → Option Int) (id : Int) :
    Option InventoryStock :=
  (inventory id).map fun stock => ⟨id, stock⟩

def ProductService.findStockById (db : Database) (id : Int) (ok : Bool) :
    Except ReadError InventoryStock :=
  if ok then
    match PrismaProductRepository.findStockById db.inventory id with
    | some inventory => .ok inventory
    | none => .error (.notFoundException "재고 정보를 찾을 수 없습니다.")
  else .error .database

/-- What `findById` says of an id without a committed order. -/
def orderNotFound : Except ReadError Order :=
  .error (.notFoundException "주문을 찾을 수 없습니다.")

/-- What `findStockById` says of a product without an inventory row. -/
def stockNotFound : Except ReadError InventoryStock :=
  .error (.notFoundException "재고 정보를 찾을 수 없습니다.")

section Tables

variable {db : Database} {id : Int} {order : Order}

theorem findById_ok (distinct : (db.orders.map (·.id)).Nodup) :
    OrderService.findById db id true = .ok order ↔ order ∈ db.orders ∧ (order.id : Int) = id := by
  have keys : (db.orders.map fun order => (order.id : Int)).Nodup := by
    have cast := distinct.map (f := Int.ofNat) fun _ _ => Int.ofNat_inj.mp
    rwa [List.map_map] at cast
  rw [← Registry.find?_key keys]
  simp only [OrderService.findById, PrismaOrderRepository.findById, if_true]
  cases db.orders.find? fun order => ((order.id : Int) = id : Prop) <;> simp

theorem findById_notFound :
    OrderService.findById db id true = orderNotFound ↔ ∀ order ∈ db.orders, (order.id : Int) ≠ id := by
  simp only [OrderService.findById, if_true, PrismaOrderRepository.findById, orderNotFound]
  cases first : db.orders.find? fun order => ((order.id : Int) = id : Prop) with
  | none => simpa using first
  | some order =>
    have own := List.find?_some first
    simp only [reduceCtorEq, false_iff, not_forall]
    exact ⟨order, List.mem_of_find?_eq_some first, by simpa using own⟩

end Tables

/-- The `COMMIT` of call `id` of `create` has taken effect, with this order in it. The caller may
not have its answer yet, and never gets it if the instance dies first. -/
def State.Committed (s : State) (id : CallId) (order : Order) : Prop :=
  ∃ call moment, s.calls[id]? = some call ∧ call.pc = .finished (.created order) moment

/-- Every committed order is that of one call. -/
structure CommitsInv (s : State) : Prop where
  visible : ∀ id order, s.Committed id order → order ∈ s.db.orders
  committed : ∀ order ∈ s.db.orders, ∃ id, s.Committed id order
  once : ∀ id other order, s.Committed id order → s.Committed other order → id = other

section Steps

variable {stock : Int → Option Nat} {s s' : State} {id : CallId} {order : Order}

theorem State.Committed.mono (committed : s.Committed id order) (taken : SalesStep s s') :
    s'.Committed id order := by
  obtain ⟨call, moment, found, ended⟩ := committed
  exact ⟨call, moment, taken.finished_stays found ended, ended⟩

/-- What a call has committed it committed before, or in this step. -/
theorem SalesStep.committed_cases (taken : SalesStep s s') (committed : s'.Committed id order) :
    s.Committed id order ∨ heldNumber CreatePc.orderId? s.calls id = some order.id ∧
      s'.db.orders = s.db.orders ++ [order] := by
  obtain ⟨call, moment, found, ended⟩ := committed
  cases taken with
  | idle calls =>
    rw [calls] at found
    exact Or.inl ⟨call, moment, found, ended⟩
  | began new fresh begun quantity calls =>
    rw [calls] at found
    rcases Registry.of_added found with old | ⟨_, rfl⟩
    · exact Or.inl ⟨call, moment, old, ended⟩
    · cases fresh.symm.trans ended
  | queried mover moved pc present executed calls =>
    rw [calls] at found
    rcases Registry.of_set found with ⟨rfl, rfl⟩ | ⟨_, old⟩
    · generalize post : s'.db = db' at executed
      cases executed with
      | committed sold event left suspended =>
        cases ended
        right
        constructor
        · simp [heldNumber, present, suspended, CreatePc.orderId?, CreatePc.order?]
        · simp [commit]
      | _ => cases ended
    · exact Or.inl ⟨call, moment, old, ended⟩
  | crashed host calls =>
    rw [calls] at found
    obtain ⟨before, present, image⟩ := Registry.of_map found
    rcases before.crash_cases host s.moment with ⟨same, _⟩ | ⟨_, aborted⟩
    · rw [same] at image
      exact Or.inl ⟨call, moment, image ▸ present, ended⟩
    · rw [aborted] at image
      rw [← image] at ended
      cases ended

/-- An order is an old one, or its call has just committed it. -/
theorem SalesStep.orders_cases (taken : SalesStep s s') (member : order ∈ s'.db.orders) :
    order ∈ s.db.orders ∨ ∃ id, s'.Committed id order := by
  cases taken with
  | idle calls db =>
    rw [db] at member
    exact Or.inl member
  | began new fresh begun quantity calls db =>
    rw [db] at member
    exact Or.inl member
  | crashed host calls db =>
    rw [db] at member
    exact Or.inl member
  | queried mover moved pc present executed calls =>
    generalize post : s'.db = db' at executed member
    cases executed with
    | committed sold event left suspended =>
      rcases List.mem_append.mp member with old | new
      · exact Or.inl old
      · cases List.mem_singleton.mp new
        exact Or.inr ⟨mover, _, s.moment, calls ▸ Registry.set_self present, rfl⟩
    | _ => exact Or.inl member

theorem CommitsInv.step (inv : CommitsInv s) (ledger : LedgerInv stock s)
    (taken : SalesStep s s') : CommitsInv s' where
  visible id order committed := by
    rcases taken.committed_cases committed with old | ⟨_, orders⟩
    · exact taken.orders_stay (inv.visible id order old)
    · rw [orders]
      exact List.mem_append_right _ List.mem_cons_self
  committed order member := by
    rcases taken.orders_cases member with old | committed
    · obtain ⟨id, committed⟩ := inv.committed order old
      exact ⟨id, committed.mono taken⟩
    · exact committed
  once id other order first second := by
    rcases taken.committed_cases first with old | ⟨holds, _⟩ <;>
      rcases taken.committed_cases second with old' | ⟨holds', _⟩
    · exact inv.once id other order old old'
    -- the id a call still holds belongs to no committed order
    · exact absurd (List.mem_map_of_mem (inv.visible id order old))
        (ledger.orderIds.unpublished other _ holds')
    · exact absurd (List.mem_map_of_mem (inv.visible other order old'))
        (ledger.orderIds.unpublished id _ holds)
    · exact ledger.orderIds.injective id other _ holds holds'

theorem commits_invariant (reachable : (system stock).Reachable anyStep s) : CommitsInv s := by
  apply reachable.invariant (I := CommitsInv)
  · rintro s rfl
    constructor
    · rintro id order ⟨call, moment, found, _⟩
      cases found
    · intro order member
      cases member
    · rintro id other order ⟨call, moment, found, _⟩
      cases found
  · intro s a s' before inv _ taken
    exact inv.step (sales_invariant before).2 (salesStep taken)

theorem State.DroppedOrder.after {n : Nat} (dropped : s.DroppedOrder n)
    (steps : (system stock).Steps anyStep s s') : s'.DroppedOrder n :=
  steps.stable (P := fun s => s.DroppedOrder n)
    (fun _ _ _ before _ taken => before.step (salesStep taken)) dropped

/-- Orders are only ever appended. -/
theorem SalesStep.orders_grow (taken : SalesStep s s') : s.db.orders <+: s'.db.orders := by
  have kept (same : s'.db.orders = s.db.orders) : s.db.orders <+: s'.db.orders :=
    same ▸ List.prefix_rfl
  cases taken with
  | idle calls db => exact kept (by rw [db])
  | began new fresh begun quantity calls db => exact kept (by rw [db])
  | crashed host calls db => exact kept (by rw [db])
  | queried mover moved pc present executed calls =>
    generalize s'.db = db' at executed
    cases executed with
    | committed => exact List.prefix_append _ _
    | _ => exact List.prefix_rfl

theorem orders_grow (steps : (system stock).Steps anyStep s s') : s.db.orders <+: s'.db.orders := by
  apply steps.stable (P := fun later => s.db.orders <+: later.db.orders) ?_ List.prefix_rfl
  exact fun _ _ _ before _ taken => before.trans (salesStep taken).orders_grow

/-- A product that was seeded shows what is left of it in the books. -/
theorem findStockById_seeded (reachable : (system stock).Reachable anyStep s) {productId : Int}
    {n : Nat} (seeded : stock productId = some n) : s.ledger.left productId ≤ n ∧
      ProductService.findStockById s.db productId true =
        .ok ⟨productId, s.ledger.left productId⟩ := by
  obtain ⟨left, row, nonneg, _⟩ := (sales_invariant reachable).2.conserved productId n seeded
  have balance := (ledger_refinement stock).invariant Ledger.balanced_invariant reachable
  have total := balance.balance productId
  simp only [openingStock, seeded, Option.getD_some] at total
  constructor
  · omega
  · simp [ProductService.findStockById, PrismaProductRepository.findStockById, State.ledger, row,
      Int.toNat_of_nonneg nonneg]

end Steps

/-- **Order reads.** `findById` returns an order exactly when one call of `create`, and only one,
has committed it, and then in every later state too. It finds no order of an open transaction, and
never one of a transaction that has ended without committing. -/
theorem order_reads (stock : Int → Option Nat) (s : State)
    (reachable : (system stock).Reachable anyStep s) :
    (∀ (id : Int) (order : Order), OrderService.findById s.db id true = .ok order ↔
      (order.id : Int) = id ∧ ∃! call, s.Committed call order) ∧
    (∀ s' (id : Int) (order : Order), (system stock).Steps anyStep s s' →
      OrderService.findById s.db id true = .ok order →
        OrderService.findById s'.db id true = .ok order) ∧
    (∀ (call : CallId) (n : Nat), heldNumber CreatePc.orderId? s.calls call = some n →
      OrderService.findById s.db n true = orderNotFound) ∧
    ∀ s' (n : Nat), (system stock).Steps anyStep s s' → s.DroppedOrder n →
      OrderService.findById s'.db n true = orderNotFound := by
  have ids := (sales_invariant reachable).2.orderIds
  have commits := commits_invariant reachable
  refine ⟨?_, ?_, ?_, ?_⟩
  · intro id order
    rw [findById_ok ids.nodup]
    constructor
    · rintro ⟨member, own⟩
      obtain ⟨call, committed⟩ := commits.committed order member
      exact ⟨own, call, committed, fun other again => commits.once other call order again committed⟩
    · rintro ⟨own, call, committed, _⟩
      exact ⟨commits.visible call order committed, own⟩
  · intro s' id order steps found
    obtain ⟨member, own⟩ := (findById_ok ids.nodup).mp found
    apply (findById_ok (sales_invariant (reachable.trans steps)).2.orderIds.nodup).mpr
    exact ⟨(orders_grow steps).subset member, own⟩
  · intro call n holds
    apply findById_notFound.mpr
    intro order member same
    apply ids.unpublished call n holds
    rw [← Int.ofNat_inj.mp same]
    exact List.mem_map_of_mem member
  · intro s' n steps dropped
    apply findById_notFound.mpr
    intro order member same
    apply (dropped.after steps).unpublished
    rw [← Int.ofNat_inj.mp same]
    exact List.mem_map_of_mem member

/-- Call 0 has committed order 1, call 1 still holds id 2 and call 2 has dropped id 3. -/
def threeBuyers : State :=
  .after anyStep (fun _ => some 5)
    ([.create 0 ⟨1, 7, 2⟩ "a" [], .create 1 ⟨2, 7, 2⟩ "b" [], .create 2 ⟨3, 7, 2⟩ "c" []] ++
      [.query 0 true, .query 1 true, .query 2 true, .query 0 true, .query 1 true, .query 2 true] ++
      [.query 2 false, .query 0 true, .query 0 true, .query 0 true])

theorem threeBuyers_reads :
    OrderService.findById threeBuyers.db 1 true = .ok ⟨⟨1, 7, 2⟩, 1⟩ ∧
    (∃! call, threeBuyers.Committed call ⟨⟨1, 7, 2⟩, 1⟩) ∧
    OrderService.findById threeBuyers.db 2 true = orderNotFound ∧
    OrderService.findById threeBuyers.db 3 true = orderNotFound := by
  have reads := order_reads _ threeBuyers (State.after_reachable ..)
  have first : OrderService.findById threeBuyers.db 1 true = .ok ⟨⟨1, 7, 2⟩, 1⟩ := by
    decide +kernel
  have open_ : heldNumber CreatePc.orderId? threeBuyers.calls 1 = some 2 := by decide +kernel
  exact ⟨first, ((reads.1 _ _).mp first).2, reads.2.2.1 1 2 open_, by decide +kernel⟩

/-- **Stock reads.** A product without an inventory row is never found. Of a seeded product
`findStockById` returns at most the initial stock, and a later read returns less by exactly the
quantities of the orders committed in between. -/
theorem stock_reads (stock : Int → Option Nat) (s s' : State) (productId : Int)
    (reachable : (system stock).Reachable anyStep s) (steps : (system stock).Steps anyStep s s') :
    (stock productId = none → ProductService.findStockById s'.db productId true = stockNotFound) ∧
    ∀ n, stock productId = some n → ∃ (left left' : Nat) (orders : List Order),
      ProductService.findStockById s.db productId true = .ok ⟨productId, left⟩ ∧ left ≤ n ∧
      ProductService.findStockById s'.db productId true = .ok ⟨productId, left'⟩ ∧
      s'.db.orders = s.db.orders ++ orders ∧
      left' + Ledger.total (orders.map Order.sold) productId = left := by
  have reachable' := reachable.trans steps
  constructor
  · intro absent
    have row := ((sales_invariant reachable').2.absent productId absent).1
    simp [ProductService.findStockById, PrismaProductRepository.findStockById, row, stockNotFound]
  · intro n seeded
    obtain ⟨orders, appended⟩ := orders_grow steps
    obtain ⟨_, new, sales, left⟩ :=
      Ledger.between ((ledger_refinement stock).steps reachable steps)
    -- the sales the books gained are these orders
    have same : new = orders.map Order.sold := by
      simp only [State.ledger, ← appended, List.map_append, List.append_cancel_left_eq] at sales
      exact sales.symm
    obtain ⟨le, shown⟩ := findStockById_seeded reachable seeded
    obtain ⟨_, shown'⟩ := findStockById_seeded reachable' seeded
    exact ⟨_, _, orders, shown, le, shown', appended.symm, same ▸ left productId⟩

theorem threeBuyers_stock : threeBuyers.db.orders = [⟨⟨1, 7, 2⟩, 1⟩] ∧
    ∃ (left left' : Nat) (orders : List Order),
      ProductService.findStockById (State.initial fun _ => some 5).db 7 true = .ok ⟨7, left⟩ ∧
      left ≤ 5 ∧
      ProductService.findStockById threeBuyers.db 7 true = .ok ⟨7, left'⟩ ∧
      threeBuyers.db.orders = [] ++ orders ∧
      left' + Ledger.total (orders.map Order.sold) 7 = left := by
  refine ⟨by decide +kernel, ?_⟩
  have steps : (system fun _ => some 5).Steps anyStep (.initial fun _ => some 5) threeBuyers :=
    System.play_steps _ (fun _ _ => of_decide_eq_true) _ _
  exact (stock_reads _ _ _ 7 (.init rfl) steps).2 5 rfl

end FlashSaleLab
