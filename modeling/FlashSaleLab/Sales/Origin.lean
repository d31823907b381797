import FlashSaleLab.Sales.Stock

/-!
# Which call an order and an event come from

An order, its event and the stock it took are committed by one call, which ends with
`created`. The order id of a call that ends otherwise is dropped for good.
-/
namespace FlashSaleLab

open OrderService PrismaOrderUnitOfWork Transition

/-- Call `id` of `create` has committed `order`, for its own input and with its `requestId`. -/
structure MadeBy (s : State) (id : CallId) (order : Order) (requestId : String) : Prop where
  committed : order ∈ s.db.orders
  call : ∃ call moment, s.calls[id]? = some call ∧
    call.pc = .finished (.created order) moment ∧ order.toCreateOrderInput = call.input ∧
    call.requestId = requestId

/-- Each event carries the order and the `requestId` of the call that committed it. -/
def EventsInv (s : State) : Prop :=
  ∀ row ∈ s.db.outboxEvents, ∃ id order requestId traceContext, MadeBy s id order requestId ∧
    row.payload = (OutboxPayload.mk order.id requestId traceContext).toJson

/-- The order id `n` was drawn by a transaction that has ended without committing. -/
def State.DroppedOrder (s : State) (n : Nat) : Prop :=
  Dropped s.db.nextOrderId (s.db.orders.map (·.id)) (heldNumber CreatePc.orderId? s.calls) n

/-- What can become of the order id `n` that call `id` drew. -/
def State.OrderFate (s : State) (id : CallId) (n : Nat) : Prop :=
  heldNumber CreatePc.orderId? s.calls id = some n ∨ s.DroppedOrder n ∨
    ∃ call order moment, s.calls[id]? = some call ∧ call.pc = .finished (.created order) moment

section Steps

variable {stock : Int → Option Nat} {s s' : State}

/-- A call that has ended stays as it is. -/
theorem SalesStep.finished_stays (taken : SalesStep s s') {id : CallId} {call : CreateCall}
    {outcome : CreateOutcome} {moment : Nat} (found : s.calls[id]? = some call)
    (ended : call.pc = .finished outcome moment) : s'.calls[id]? = some call := by
  cases taken with
  | idle calls => rw [calls, found]
  | began new fresh begun quantity calls =>
    rw [calls]
    exact Registry.added_of found
  | queried mover moved pc present executed calls =>
    rw [calls]
    by_cases same : id = mover
    · subst same
      cases found.symm.trans present
      -- it awaits no statement any more
      generalize s'.db = db' at executed
      cases executed with
      | failed active => exact absurd ended (active outcome moment)
      | _ => simp_all
    · rw [Registry.set_other same, found]
  | crashed host calls =>
    rw [calls, List.getElem?_map, found]
    simp only [Option.map_some, Option.some.injEq]
    rcases call.crash_cases host s.moment with ⟨same, _⟩ | ⟨_, aborted⟩
    · exact same
    · unfold CreateCall.crash
      rw [ended]
      cases call
      simp_all [CreatePc.abort]

theorem SalesStep.orders_stay (taken : SalesStep s s') {order : Order}
    (member : order ∈ s.db.orders) : order ∈ s'.db.orders := by
  cases taken with
  | idle calls db => rwa [db]
  | began call fresh begun quantity calls db => rwa [db]
  | queried id call pc found executed =>
    generalize s'.db = db' at executed ⊢
    cases executed with
    | committed => exact List.mem_append_left _ member
    | _ => exact member
  | crashed host calls db => rwa [db]

theorem MadeBy.mono {id : CallId} {order : Order} {requestId : String}
    (made : MadeBy s id order requestId) (taken : SalesStep s s') :
    MadeBy s' id order requestId where
  committed := taken.orders_stay made.committed
  call := by
    obtain ⟨call, moment, found, ended, input, request⟩ := made.call
    exact ⟨call, moment, taken.finished_stays found ended, ended, input, request⟩

/-- Events keep their payload, and a new one is the committing call's own. -/
theorem EventsInv.step (inv : EventsInv s) (calls : CallsInv s) (taken : SalesStep s s') :
    EventsInv s' := by
  intro row member
  have before {old : OutboxEvent} (present : old ∈ s.db.outboxEvents)
      (payload : row.payload = old.payload) :
      ∃ id order requestId traceContext, MadeBy s' id order requestId ∧
        row.payload = (OutboxPayload.mk order.id requestId traceContext).toJson := by
    obtain ⟨id, order, requestId, traceContext, made, carries⟩ := inv old present
    exact ⟨id, order, requestId, traceContext, made.mono taken, payload.trans carries⟩
  cases taken with
  | idle moved db rows =>
    -- publishers change an event's status, never its payload
    have listed := List.mem_map_of_mem (f := PrismaOutboxRepository.identity) member
    rw [rows] at listed
    obtain ⟨old, present, identity⟩ := List.mem_map.mp listed
    exact before present (congrArg (·.2.2) identity).symm
  | began call fresh begun quantity moved db => exact before (db ▸ member) rfl
  | crashed host moved db => exact before (by rw [db] at member; exact member) rfl
  | queried id call pc found executed moved =>
    have callInv := calls id call found
    generalize post : s'.db = db' at executed member
    cases executed with
    | committed order event left suspended =>
      -- the new event is the one the call's own transaction created
      rcases List.mem_append.mp member with old | new
      · exact before old rfl
      · rw [List.mem_singleton.mp new]
        obtain ⟨n, rfl⟩ := callInv.event order event (by simp [suspended, CreatePc.order?])
          (by simp [suspended, CreatePc.event?])
        refine ⟨id, order, call.requestId, call.traceContext, ⟨?_, ?_⟩, rfl⟩
        · rw [post]
          exact List.mem_append_right _ List.mem_cons_self
        · rw [moved]
          exact ⟨_, s.moment, Registry.set_self found, rfl,
            callInv.order order (by simp [suspended, CreatePc.order?]), rfl⟩
    | _ => exact before member rfl

/-- A call whose transaction ends without a commit drops its order id. -/
theorem dropped_of_released (ledger : LedgerInv stock s) {id : CallId} {n : Nat}
    (holds : heldNumber CreatePc.orderId? s.calls id = some n)
    (next : s'.db.nextOrderId = s.db.nextOrderId) (orders : s'.db.orders = s.db.orders)
    (fewer : ∀ other m, heldNumber CreatePc.orderId? s'.calls other = some m →
      heldNumber CreatePc.orderId? s.calls other = some m)
    (gone : heldNumber CreatePc.orderId? s'.calls id = none) : s'.DroppedOrder n := by
  unfold State.DroppedOrder
  rw [next, orders]
  refine Dropped.of_released ledger.orderIds holds fun other m still => ⟨?_, fewer other m still⟩
  rintro rfl
  cases gone.symm.trans still

/-- What a step makes of the order id a call holds. -/
theorem SalesStep.held_order (taken : SalesStep s s') (ledger : LedgerInv stock s) {id : CallId}
    {n : Nat} (holds : heldNumber CreatePc.orderId? s.calls id = some n) :
    s'.OrderFate id n := by
  obtain ⟨call, found, number⟩ := Option.bind_eq_some_iff.mp holds
  cases taken with
  | idle calls =>
    left
    rwa [calls]
  | began new fresh begun quantity calls =>
    left
    simp [heldNumber, calls, Registry.added_of found, number]
  | queried mover moved pc present executed calls =>
    by_cases same : id = mover
    · subst same
      cases found.symm.trans present
      have after : s'.calls[id]? = some { call with pc } := calls ▸ Registry.set_self found
      -- the statements that end the transaction without a commit
      have released (nothing : pc.orderId? = none)
          (next : s'.db.nextOrderId = s.db.nextOrderId) (orders : s'.db.orders = s.db.orders) :
          s'.DroppedOrder n := by
        refine dropped_of_released ledger holds next orders (fun other m still => ?_) ?_
        · rw [calls] at still
          rcases heldNumber_set still with ⟨_, own⟩ | ⟨_, old⟩
          · cases nothing.symm.trans own
          · exact old
        · simp [heldNumber, after, nothing]
      generalize post : s'.db = db' at executed released
      -- the call keeps its id, commits it, or gives it up
      cases executed with
      | outboxInserted order suspended | decreased order event stock suspended =>
        left
        rw [suspended] at number
        simpa [heldNumber, after, CreatePc.orderId?, CreatePc.order?] using number
      | guardFailed | failed => exact Or.inr (Or.inl (released rfl rfl rfl))
      | committed order => exact Or.inr (Or.inr ⟨_, order, s.moment, after, rfl⟩)
      | precheckRejected suspended | precheckPassed suspended | orderInserted suspended
      | conflicted suspended | precheckFailed suspended =>
        rw [suspended] at number
        cases number
    · left
      simp [heldNumber, calls, Registry.set_other same, found, number]
  | crashed host calls db =>
    -- the database rolls back what the crashed instance had open
    have after : s'.calls[id]? = some (call.crash host s.moment) := by
      rw [calls, List.getElem?_map, found]
      rfl
    rcases call.crash_cases host s.moment with ⟨same, _⟩ | ⟨_, aborted⟩
    · left
      simp [heldNumber, after, same, number]
    · right; left
      refine dropped_of_released ledger holds (by rw [db]) (by rw [db]) (fun other m still => ?_) ?_
      · exact heldNumber_crash (fun _ _ => rfl) (calls ▸ still)
      · simp [heldNumber, after, aborted, CreatePc.orderId?, CreatePc.order?]

theorem State.DroppedOrder.step {n : Nat} (dropped : s.DroppedOrder n) (taken : SalesStep s s') :
    s'.DroppedOrder n := by
  unfold State.DroppedOrder at *
  cases taken with
  | idle calls db =>
    rw [calls, db]
    exact dropped
  | began call fresh begun quantity calls db =>
    rw [db]
    refine dropped.drop fun id m holds => ?_
    obtain ⟨found, present, number⟩ := Option.bind_eq_some_iff.mp holds
    rw [calls] at present
    rcases Registry.of_added present with old | ⟨_, rfl⟩
    · simp [heldNumber, old, number]
    · simp [fresh, CreatePc.orderId?, CreatePc.order?] at number
  | queried mover call pc found executed calls =>
    have current : heldNumber CreatePc.orderId? s.calls mover = call.pc.orderId? := by
      simp [heldNumber, found]
    have moved := executed.orderNumber
    generalize s'.db.nextOrderId = next at moved ⊢
    generalize s'.db.orders.map (·.id) = committed at moved ⊢
    rw [calls]
    cases moved with
    | kept fewer =>
      refine dropped.drop fun id m holds => ?_
      rcases heldNumber_set holds with ⟨rfl, number⟩ | ⟨_, old⟩
      · exact current.trans (fewer m number)
      · exact old
    | drawn fresh =>
      refine dropped.draw fun id m holds => ?_
      rcases heldNumber_set holds with ⟨rfl, number⟩ | ⟨_, old⟩
      · exact Or.inl (Option.some.inj (number.symm.trans fresh))
      · exact Or.inr old
    | published m holds gone =>
      refine dropped.publish (current.trans holds) fun id a holds => ?_
      rcases heldNumber_set holds with ⟨rfl, number⟩ | ⟨_, old⟩
      · cases gone.symm.trans number
      · exact old
  | crashed host calls db =>
    rw [db]
    exact dropped.drop fun id m holds => heldNumber_crash (fun _ _ => rfl) (calls ▸ holds)

theorem State.OrderFate.step {id : CallId} {n : Nat} (fate : s.OrderFate id n)
    (taken : SalesStep s s') (ledger : LedgerInv stock s) : s'.OrderFate id n := by
  rcases fate with held | dropped | ⟨call, order, moment, found, created⟩
  · exact taken.held_order ledger held
  · exact Or.inr (Or.inl (dropped.step taken))
  · exact Or.inr (Or.inr ⟨call, order, moment, taken.finished_stays found created, created⟩)

end Steps

theorem events_invariant {stock : Int → Option Nat} {allowed : State → Action → Prop} {s : State}
    (reachable : (system stock).Reachable allowed s) : EventsInv s := by
  apply reachable.invariant (I := EventsInv)
  · rintro s rfl row member
    cases member
  · intro s a s' before inv _ taken
    exact inv.step (sales_invariant before).1 (salesStep taken)

/-- An order id a transaction has drawn is dropped or committed when its call has ended. -/
theorem dropped_of_ended {stock : Int → Option Nat} {allowed : State → Action → Prop}
    {before s : State} (reachable : (system stock).Reachable allowed before)
    (steps : (system stock).Steps allowed before s) {id : CallId} {n : Nat}
    (holds : heldNumber CreatePc.orderId? before.calls id = some n) {call : CreateCall}
    {outcome : CreateOutcome} {moment : Nat} (found : s.calls[id]? = some call)
    (ended : call.pc = .finished outcome moment) :
    s.DroppedOrder n ∨ ∃ order, outcome = .created order := by
  have fate : s.OrderFate id n := by
    refine reachable.stable (P := fun s => s.OrderFate id n) ?_ steps (Or.inl holds)
    intro s a s' between fate _ taken
    exact fate.step (salesStep taken) (sales_invariant between).2
  rcases fate with held | dropped | ⟨other, order, _, present, created⟩
  · simp [heldNumber, found, ended, CreatePc.orderId?, CreatePc.order?] at held
  · exact Or.inl dropped
  · cases found.symm.trans present
    cases ended.symm.trans created
    exact Or.inr ⟨order, rfl⟩

end FlashSaleLab
