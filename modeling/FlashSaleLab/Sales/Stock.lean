import FlashSaleLab.Foundations.Registry
import FlashSaleLab.Foundations.Tickets
import FlashSaleLab.Sales.Steps

/-!
# Stock conservation and order/outbox pairing

The row lock makes the stock a transaction wrote the committed stock less its quantity
until it commits; orders and outbox rows are only ever appended together.
-/
namespace FlashSaleLab

open OrderService PrismaOrderUnitOfWork Transition

/-- The row a transaction has inserted into `orders` and not committed. -/
def CreatePc.order? : CreatePc → Option Order
  | .insertingOutbox order => some order
  | .decreasing order _ => some order
  | .committing order _ _ => some order
  | _ => none

/-- The row a transaction has inserted into `outbox_events` and not committed. -/
def CreatePc.event? : CreatePc → Option OutboxEvent
  | .decreasing _ event => some event
  | .committing _ event _ => some event
  | _ => none

/-- What holds of one call against the committed state. -/
structure CallInv (db : Database) (id : CallId) (call : CreateCall) : Prop where
  quantity : 1 ≤ call.input.quantity
  order : ∀ order, call.pc.order? = some order → order.toCreateOrderInput = call.input
  event : ∀ order event, call.pc.order? = some order → call.pc.event? = some event →
    ∃ n, event = PrismaOutboxRepository.create (outboxInput call order) n
  writes : ∀ order event left, call.pc = .committing order event left →
    db.lockedBy call.input.productId = some id ∧ 0 ≤ left ∧
      db.inventory call.input.productId = some (left + call.input.quantity)
  refused : call.pc = .rollingBack → ∀ stock,
    db.inventory call.input.productId = some stock → stock < call.input.quantity

section CallSteps

variable {db db' : Database} {id other : CallId} {call peer : CreateCall} {moment : Nat}
  {pc : CreatePc}

/-- Only the invariant's two last fields mention the database. They survive when the row
locks of the call stay with their rows and no stock grows. -/
theorem CallInv.transfer (inv : CallInv db id call)
    (locked : ∀ p, db.lockedBy p = some id →
      db'.lockedBy p = some id ∧ db'.inventory p = db.inventory p)
    (shrinks : ∀ p stock, db'.inventory p = some stock →
      ∃ before, db.inventory p = some before ∧ stock ≤ before) : CallInv db' id call where
  quantity := inv.quantity
  order := inv.order
  event := inv.event
  writes order event left suspended := by
    obtain ⟨lock, nonneg, row⟩ := inv.writes order event left suspended
    obtain ⟨lock', same⟩ := locked _ lock
    exact ⟨lock', nonneg, same.trans row⟩
  refused suspended stock row := by
    obtain ⟨before, old, le⟩ := shrinks _ stock row
    exact lt_of_le_of_lt le (inv.refused suspended before old)

theorem CallInv.fresh (quantity : 1 ≤ call.input.quantity) (start : call.pc = .prechecking) :
    CallInv db id call where
  quantity := quantity
  order := by simp [start, CreatePc.order?]
  event := by simp [start, CreatePc.order?]
  writes := by simp [start]
  refused := by simp [start]

theorem CallInv.ended (inv : CallInv db id call) {outcome : CreateOutcome} :
    CallInv db' id { call with pc := .finished outcome moment } where
  quantity := inv.quantity
  order := by simp [CreatePc.order?]
  event := by simp [CreatePc.order?]
  writes := by simp
  refused := by simp

theorem CallInv.moved (inv : CallInv db id call)
    (step : CreateStep db id call moment db' pc) : CallInv db' id { call with pc } := by
  cases step with
  | precheckRejected | committed | conflicted | precheckFailed | failed => exact inv.ended
  | precheckPassed =>
    exact ⟨inv.quantity, by simp [CreatePc.order?], by simp [CreatePc.order?], by simp, by simp⟩
  | orderInserted =>
    refine ⟨inv.quantity, ?_, by simp [CreatePc.event?], by simp, by simp⟩
    rintro order ⟨⟩
    rfl
  | outboxInserted order suspended =>
    refine ⟨inv.quantity, ?_, ?_, by simp, by simp⟩
    · rintro order ⟨⟩
      exact inv.order _ (by simp [suspended, CreatePc.order?])
    · rintro order event ⟨⟩ ⟨⟩
      exact ⟨_, rfl⟩
  | decreased order event stock suspended _ row enough =>
    refine ⟨inv.quantity, ?_, ?_, ?_, by simp⟩
    · rintro order ⟨⟩
      exact inv.order _ (by simp [suspended, CreatePc.order?])
    · rintro order event ⟨⟩ ⟨⟩
      exact inv.event _ _ (by simp [suspended, CreatePc.order?])
        (by simp [suspended, CreatePc.event?])
    · -- the guard held on the committed row and the lock is taken with it
      rintro order event left ⟨⟩
      refine ⟨by simp, by omega, ?_⟩
      simpa using row
  | guardFailed order event suspended short =>
    exact ⟨inv.quantity, by simp [CreatePc.order?], by simp [CreatePc.order?], by simp,
      fun _ => short⟩

/-- Rolling another transaction back leaves this one's locks and every stock alone. -/
theorem CallInv.rollback_other (inv : CallInv db other peer) (ne : other ≠ id) :
    CallInv (rollback db id) other peer := by
  refine inv.transfer (fun p lock => ⟨?_, rfl⟩) fun p stock row => ⟨stock, row, le_rfl⟩
  simp [rollback, lock, ne]

theorem CallInv.unmoved (inv : CallInv db id call) (peerInv : CallInv db other peer)
    (ne : other ≠ id) (step : CreateStep db id call moment db' pc) : CallInv db' other peer := by
  cases step with
  | precheckRejected | precheckPassed | guardFailed | precheckFailed => exact peerInv
  | orderInserted | outboxInserted =>
    exact peerInv.transfer (fun p lock => ⟨lock, rfl⟩) fun p stock row => ⟨stock, row, le_rfl⟩
  | conflicted | failed => exact peerInv.rollback_other ne
  | decreased order event stock suspended free =>
    -- the row was free, so what the other call has locked is another row
    refine peerInv.transfer (fun p lock => ⟨?_, rfl⟩) fun p stock row => ⟨stock, row, le_rfl⟩
    have apart : p ≠ call.input.productId := by
      rintro rfl
      simp [free] at lock
    simpa [apart] using lock
  | committed order event stock suspended =>
    obtain ⟨lock, nonneg, row⟩ := inv.writes order event stock suspended
    have product : order.productId = call.input.productId :=
      congrArg CreateOrderInput.productId
        (inv.order order (by simp [suspended, CreatePc.order?]))
    refine (peerInv.rollback_other ne).transfer (fun p peerLock => ⟨peerLock, ?_⟩) ?_
    · -- the commit writes the one row this call has locked
      have apart : p ≠ order.productId := by
        rintro rfl
        rw [product] at peerLock
        simp [rollback, lock] at peerLock
      simp [commit, rollback, apart]
    · -- and that row's stock goes down, so a refused quantity stays refused
      intro p stock' row'
      simp only [commit] at row'
      by_cases same : p = order.productId
      · subst same
        simp only [Function.update_self, Option.some.injEq] at row'
        have := inv.quantity
        exact ⟨_, (congrArg db.inventory product).trans row, by omega⟩
      · exact ⟨stock', by simpa [rollback, same] using row', le_rfl⟩

end CallSteps

/-- Every call, by its position in `calls`. -/
def CallsInv (s : State) : Prop :=
  ∀ id call, s.calls[id]? = some call → CallInv s.db id call

theorem CreateCall.crash_cases (host : InstanceId) (moment : Nat) (call : CreateCall) :
    (call.crash host moment = call ∧ (call.host = host → ∃ outcome ended,
      call.pc = .finished outcome ended)) ∨
    (call.host = host ∧ call.crash host moment = { call with pc := .finished .failed moment }) := by
  unfold CreateCall.crash
  by_cases same : call.host = host
  · rw [if_pos same]
    cases pc : call.pc with
    | finished outcome ended =>
      refine Or.inl ⟨?_, fun _ => ⟨outcome, ended, rfl⟩⟩
      cases call
      simp_all [CreatePc.abort]
    | _ => exact Or.inr ⟨same, rfl⟩
  · rw [if_neg same]
    exact Or.inl ⟨rfl, fun equal => absurd equal same⟩

theorem CallsInv.step {s s' : State} (inv : CallsInv s) (taken : SalesStep s s') :
    CallsInv s' := by
  intro id call found
  cases taken with
  | idle calls db rows =>
    rw [calls] at found
    rw [db]
    exact (inv id call found).transfer (fun p lock => ⟨lock, rfl⟩)
      fun p stock row => ⟨stock, row, le_rfl⟩
  | began new fresh begun quantity calls db =>
    rw [calls] at found
    rw [db]
    rcases Registry.of_added found with old | ⟨_, rfl⟩
    · exact inv id call old
    · exact .fresh quantity fresh
  | queried mover moved pc present executed calls =>
    rw [calls] at found
    rcases Registry.of_set found with ⟨rfl, rfl⟩ | ⟨ne, old⟩
    · exact (inv id moved present).moved executed
    · exact (inv mover moved present).unmoved (inv id call old) ne executed
  | crashed host calls db =>
    rw [calls] at found
    rw [db]
    obtain ⟨before, present, image⟩ := Registry.of_map found
    have old := inv id before present
    rcases before.crash_cases host s.moment with ⟨same, ended⟩ | ⟨_, aborted⟩
    · rw [same] at image
      subst image
      by_cases gone : before.host = host
      · -- it had finished before, and holds nothing
        obtain ⟨outcome, moment, pc⟩ := ended gone
        exact ⟨old.quantity, by simp [pc, CreatePc.order?], by simp [pc, CreatePc.order?],
          by simp [pc], by simp [pc]⟩
      · refine old.transfer (fun p lock => ⟨?_, rfl⟩) fun p stock row => ⟨stock, row, le_rfl⟩
        simp [lock, State.callOf, present, gone]
    · rw [aborted] at image
      subst image
      exact old.ended

/-! ### The ledger -/

/-- The quantity of a product the committed orders took. -/
def sold (orders : List Order) (productId : Int) : Int :=
  ((orders.filter fun order => order.productId = productId).map fun order => order.quantity).sum

theorem sold_append (orders : List Order) (order : Order) (productId : Int) :
    sold (orders ++ [order]) productId =
      sold orders productId + if order.productId = productId then order.quantity else 0 := by
  by_cases same : order.productId = productId <;> simp [sold, same]

/-- `payload.orderId`, when it is a number. -/
def OutboxEvent.orderId? (event : OutboxEvent) : Option Rat :=
  match event.payload.property "orderId" with
  | .ok (some (.number orderId)) => some orderId
  | _ => none

/-- An `ORDER_NOTIFICATION` event whose `payload.orderId` is `id`. -/
def OutboxEvent.announces (id : Nat) (event : OutboxEvent) : Bool :=
  event.type = "ORDER_NOTIFICATION" ∧ event.orderId? = some (id : Rat)

/-- The outbox row, as its identity, that a call inserted together with the order. -/
def Pairs (order : Order) (row : Nat × String × Json) : Prop :=
  row.2.1 = "ORDER_NOTIFICATION" ∧
    ∃ requestId traceContext, row.2.2 = (OutboxPayload.mk order.id requestId traceContext).toJson

theorem Pairs.announces {order : Order} {event : OutboxEvent}
    (pairs : Pairs order (PrismaOutboxRepository.identity event)) (id : Nat) :
    event.announces id = decide (order.id = id) := by
  obtain ⟨type, requestId, traceContext, payload⟩ := pairs
  simp only [PrismaOutboxRepository.identity] at type payload
  simp [OutboxEvent.announces, OutboxEvent.orderId?, type, payload, OutboxPayload.toJson,
    Json.property]

/-- What the pending transactions hold of a kind of drawn number. -/
def heldNumber (held : CreatePc → Option Nat) (calls : List CreateCall) (id : CallId) :
    Option Nat :=
  (calls[id]?).bind fun call => held call.pc

def CreatePc.orderId? (pc : CreatePc) : Option Nat := pc.order?.map fun order => order.id

def CreatePc.eventId? (pc : CreatePc) : Option Nat := pc.event?.map fun event => event.id

theorem heldNumber_set {held : CreatePc → Option Nat} {calls : List CreateCall}
    {id other : CallId} {call : CreateCall} {n : Nat}
    (holds : heldNumber held (calls.set id call) other = some n) :
    (other = id ∧ held call.pc = some n) ∨ (other ≠ id ∧ heldNumber held calls other = some n) := by
  obtain ⟨found, present, number⟩ := Option.bind_eq_some_iff.mp holds
  rcases Registry.of_set present with ⟨rfl, rfl⟩ | ⟨ne, old⟩
  · exact Or.inl ⟨rfl, number⟩
  · exact Or.inr ⟨ne, by simp [heldNumber, old, number]⟩

/-- What one step makes of a drawn number: the counter, the committed numbers and what the
moving call holds before and after. -/
inductive NumberStep (next : Nat) (committed : List Nat) (before after : Option Nat) :
    Nat → List Nat → Prop
  | kept (fewer : ∀ n, after = some n → before = some n) :
      NumberStep next committed before after next committed
  | drawn (fresh : after = some next) :
      NumberStep next committed before after (next + 1) committed
  | published (n : Nat) (held : before = some n) (gone : after = none) :
      NumberStep next committed before after next (committed ++ [n])

theorem Tickets.numberStep {held : CreatePc → Option Nat} {calls : List CreateCall}
    {id : CallId} {call : CreateCall} {pc : CreatePc} {next next' : Nat}
    {committed committed' : List Nat} (tickets : Tickets next committed (heldNumber held calls))
    (found : calls[id]? = some call)
    (step : NumberStep next committed (held call.pc) (held pc) next' committed') :
    Tickets next' committed' (heldNumber held (calls.set id { call with pc })) := by
  have current : heldNumber held calls id = held call.pc := by simp [heldNumber, found]
  cases step with
  | kept fewer =>
    refine tickets.drop fun other n holds => ?_
    rcases heldNumber_set holds with ⟨rfl, number⟩ | ⟨_, old⟩
    · exact current.trans (fewer n number)
    · exact old
  | drawn fresh =>
    refine tickets.draw id fun other n holds => ?_
    rcases heldNumber_set holds with ⟨rfl, number⟩ | ⟨ne, old⟩
    · exact Or.inl ⟨rfl, Option.some.inj (number.symm.trans fresh)⟩
    · exact Or.inr ⟨ne, old⟩
  | published n holds gone =>
    refine tickets.publish (current.trans holds) fun other m holds => ?_
    rcases heldNumber_set holds with ⟨rfl, number⟩ | ⟨ne, old⟩
    · cases gone.symm.trans number
    · exact ⟨ne, old⟩

section Numbers

variable {db db' : Database} {id : CallId} {call : CreateCall} {moment : Nat} {pc : CreatePc}

theorem OrderService.CreateStep.orderNumber (step : CreateStep db id call moment db' pc) :
    NumberStep db.nextOrderId (db.orders.map (·.id)) call.pc.orderId? pc.orderId?
      db'.nextOrderId (db'.orders.map (·.id)) := by
  cases step with
  | orderInserted => exact .drawn rfl
  | committed order event stock suspended =>
    rw [show (commit db id order event stock).orders.map (·.id) =
      db.orders.map (·.id) ++ [order.id] by simp [commit]]
    exact .published _ (by simp [suspended, CreatePc.orderId?, CreatePc.order?]) rfl
  | outboxInserted order suspended =>
    exact .kept (by simp [suspended, CreatePc.orderId?, CreatePc.order?])
  | decreased order event stock suspended =>
    exact .kept (by simp [suspended, CreatePc.orderId?, CreatePc.order?])
  | _ => exact .kept (by simp [CreatePc.orderId?, CreatePc.order?])

theorem OrderService.CreateStep.eventNumber (step : CreateStep db id call moment db' pc) :
    NumberStep db.nextOutboxId (db.outboxEvents.map (·.id)) call.pc.eventId? pc.eventId?
      db'.nextOutboxId (db'.outboxEvents.map (·.id)) := by
  cases step with
  | outboxInserted => exact .drawn rfl
  | committed order event stock suspended =>
    rw [show (commit db id order event stock).outboxEvents.map (·.id) =
      db.outboxEvents.map (·.id) ++ [event.id] by simp [commit]]
    exact .published _ (by simp [suspended, CreatePc.eventId?, CreatePc.event?]) rfl
  | decreased order event stock suspended =>
    exact .kept (by simp [suspended, CreatePc.eventId?, CreatePc.event?])
  | _ => exact .kept (by simp [CreatePc.eventId?, CreatePc.event?])

end Numbers

/-- The committed rows against the initial inventory. -/
structure LedgerInv (stock : Int → Option Nat) (s : State) : Prop where
  conserved : ∀ productId n, stock productId = some n → ∃ left,
    s.db.inventory productId = some left ∧ 0 ≤ left ∧ left + sold s.db.orders productId = n
  absent : ∀ productId, stock productId = none →
    s.db.inventory productId = none ∧ ∀ order ∈ s.db.orders, order.productId ≠ productId
  paired : List.Forall₂ Pairs s.db.orders (s.db.outboxEvents.map PrismaOutboxRepository.identity)
  orderIds : Tickets s.db.nextOrderId (s.db.orders.map (·.id))
    (heldNumber CreatePc.orderId? s.calls)
  eventIds : Tickets s.db.nextOutboxId (s.db.outboxEvents.map (·.id))
    (heldNumber CreatePc.eventId? s.calls)

theorem LedgerInv.initial (stock : Int → Option Nat) : LedgerInv stock (.initial stock) where
  conserved productId n row := ⟨n, by simp [State.initial, row], by simp, by
    simp [State.initial, sold]⟩
  absent productId row := by simp [State.initial, row]
  paired := .nil
  orderIds := .empty _ fun _ => rfl
  eventIds := .empty _ fun _ => rfl

theorem heldNumber_crash {held : CreatePc → Option Nat} {host : InstanceId} {moment : Nat}
    {calls : List CreateCall} {id : CallId} {n : Nat}
    (ended : ∀ outcome moment, held (.finished outcome moment) = none)
    (holds : heldNumber held (calls.map (CreateCall.crash host moment)) id = some n) :
    heldNumber held calls id = some n := by
  obtain ⟨call, found, number⟩ := Option.bind_eq_some_iff.mp holds
  obtain ⟨before, present, image⟩ := Registry.of_map found
  rcases before.crash_cases host moment with ⟨same, _⟩ | ⟨_, aborted⟩
  · rw [same] at image
    subst image
    simp [heldNumber, present, number]
  · rw [aborted] at image
    subst image
    simp [ended] at number

section LedgerSteps

variable {stock : Int → Option Nat} {s s' : State}

/-- A commit takes the order's quantity from the stock of its product. -/
theorem LedgerInv.commit_conserved (inv : LedgerInv stock s) {id : CallId} {call : CreateCall}
    {order : Order} {event : OutboxEvent} {left : Int} (callInv : CallInv s.db id call)
    (suspended : call.pc = .committing order event left) (productId : Int) (n : Nat)
    (row : stock productId = some n) :
    ∃ now, (commit s.db id order event left).inventory productId = some now ∧ 0 ≤ now ∧
      now + sold (commit s.db id order event left).orders productId = n := by
  obtain ⟨_, nonneg, held⟩ := callInv.writes order event left suspended
  have input : order.toCreateOrderInput = call.input :=
    callInv.order order (by simp [suspended, CreatePc.order?])
  obtain ⟨before, present, enough, balance⟩ := inv.conserved productId n row
  have total := sold_append s.db.orders order productId
  by_cases same : productId = order.productId
  · subst same
    -- the lock kept the committed stock at what the `UPDATE` read
    refine ⟨left, by simp [commit], nonneg, ?_⟩
    rw [← input, present, Option.some.injEq] at held
    simp only [if_true] at total
    have : sold (commit s.db id order event left).orders order.productId =
        sold s.db.orders order.productId + order.quantity := total
    omega
  · refine ⟨before, by simpa [commit, same] using present, enough, ?_⟩
    rw [if_neg (Ne.symm same), add_zero] at total
    exact (congrArg (before + ·) total).trans balance

/-- A commit is for a product that has an inventory row. -/
theorem LedgerInv.commit_absent (inv : LedgerInv stock s) {id : CallId} {call : CreateCall}
    {order : Order} {event : OutboxEvent} {left : Int} (callInv : CallInv s.db id call)
    (suspended : call.pc = .committing order event left) (productId : Int)
    (missing : stock productId = none) :
    (commit s.db id order event left).inventory productId = none ∧
      ∀ other ∈ (commit s.db id order event left).orders, other.productId ≠ productId := by
  obtain ⟨_, _, row⟩ := callInv.writes order event left suspended
  have input : order.toCreateOrderInput = call.input :=
    callInv.order order (by simp [suspended, CreatePc.order?])
  obtain ⟨absent, none⟩ := inv.absent productId missing
  have apart : order.productId ≠ productId := by
    rintro rfl
    rw [← input, absent] at row
    cases row
  refine ⟨by simpa [commit, Ne.symm apart] using absent, ?_⟩
  intro other member
  rcases List.mem_append.mp member with old | new
  · exact none other old
  · rw [List.mem_singleton.mp new]
    exact apart

/-- A commit appends the order and the event that announces it at the same position. -/
theorem LedgerInv.commit_paired (inv : LedgerInv stock s) {id : CallId} {call : CreateCall}
    {order : Order} {event : OutboxEvent} {left : Int} (callInv : CallInv s.db id call)
    (suspended : call.pc = .committing order event left) :
    List.Forall₂ Pairs (commit s.db id order event left).orders
      ((commit s.db id order event left).outboxEvents.map PrismaOutboxRepository.identity) := by
  simp only [commit, List.map_append]
  obtain ⟨n, created⟩ := callInv.event order event (by simp [suspended, CreatePc.order?])
    (by simp [suspended, CreatePc.event?])
  refine List.rel_append inv.paired (.cons ?_ .nil)
  exact created ▸ ⟨rfl, call.requestId, call.traceContext, rfl⟩

theorem LedgerInv.step (calls : CallsInv s) (inv : LedgerInv stock s) (taken : SalesStep s s') :
    LedgerInv stock s' := by
  cases taken with
  | idle same db rows =>
    have inventory : s'.db.inventory = s.db.inventory := by rw [db]
    have orders : s'.db.orders = s.db.orders := by rw [db]
    have nextOrder : s'.db.nextOrderId = s.db.nextOrderId := by rw [db]
    have nextOutbox : s'.db.nextOutboxId = s.db.nextOutboxId := by rw [db]
    have ids := PrismaOutboxRepository.ids_of_identity rows
    refine ⟨?_, ?_, ?_, ?_, ?_⟩
    · simpa only [inventory, orders] using inv.conserved
    · simpa only [inventory, orders] using inv.absent
    · simpa only [orders, rows] using inv.paired
    · simpa only [nextOrder, orders, same] using inv.orderIds
    · simpa only [nextOutbox, ids, same] using inv.eventIds
  | began call fresh begun quantity added db =>
    -- a new call has drawn no number yet
    have lost (held : CreatePc → Option Nat) (nothing : held .prechecking = none) (id : CallId)
        (n : Nat) (holds : heldNumber held s'.calls id = some n) :
        heldNumber held s.calls id = some n := by
      obtain ⟨found, present, number⟩ := Option.bind_eq_some_iff.mp holds
      rw [added] at present
      rcases Registry.of_added present with old | ⟨_, rfl⟩
      · simp [heldNumber, old, number]
      · simp [fresh, nothing] at number
    exact ⟨by rw [db]; exact inv.conserved, by rw [db]; exact inv.absent,
      by rw [db]; exact inv.paired, by rw [db]; exact inv.orderIds.drop (lost _ rfl),
      by rw [db]; exact inv.eventIds.drop (lost _ rfl)⟩
  | queried id call pc found executed moved =>
    have callInv := calls id call found
    have orderIds := inv.orderIds.numberStep found executed.orderNumber
    have eventIds := inv.eventIds.numberStep found executed.eventNumber
    rw [← moved] at orderIds eventIds
    -- the sequences are settled; what is left reads the committed rows only
    suffices rest : (∀ productId n, stock productId = some n → ∃ left,
          s'.db.inventory productId = some left ∧ 0 ≤ left ∧
            left + sold s'.db.orders productId = n) ∧
        (∀ productId, stock productId = none → s'.db.inventory productId = none ∧
          ∀ order ∈ s'.db.orders, order.productId ≠ productId) ∧
        List.Forall₂ Pairs s'.db.orders
          (s'.db.outboxEvents.map PrismaOutboxRepository.identity) from
      ⟨rest.1, rest.2.1, rest.2.2, orderIds, eventIds⟩
    clear orderIds eventIds
    generalize s'.db = db' at executed ⊢
    cases executed with
    | committed order event left suspended =>
      exact ⟨fun productId n => inv.commit_conserved callInv suspended productId n,
        inv.commit_absent callInv suspended, inv.commit_paired callInv suspended⟩
    | _ => exact ⟨inv.conserved, inv.absent, inv.paired⟩
  | crashed host aborted db =>
    have lost (held : CreatePc → Option Nat)
        (nothing : ∀ outcome moment, held (.finished outcome moment) = none) (id : CallId)
        (n : Nat) (holds : heldNumber held s'.calls id = some n) :
        heldNumber held s.calls id = some n :=
      heldNumber_crash nothing (aborted ▸ holds)
    exact ⟨by rw [db]; exact inv.conserved, by rw [db]; exact inv.absent,
      by rw [db]; exact inv.paired, by rw [db]; exact inv.orderIds.drop (lost _ fun _ _ => rfl),
      by rw [db]; exact inv.eventIds.drop (lost _ fun _ _ => rfl)⟩

end LedgerSteps

/-- Both invariants of the sales side hold in every reachable state, whatever the other
components do in between. -/
theorem sales_invariant {stock : Int → Option Nat} {allowed : State → Action → Prop} {s : State}
    (reachable : (system stock).Reachable allowed s) : CallsInv s ∧ LedgerInv stock s := by
  apply reachable.invariant (I := fun s => CallsInv s ∧ LedgerInv stock s)
  · rintro s rfl
    exact ⟨fun id call found => by simp [State.initial] at found, .initial stock⟩
  · intro s a s' _ inv _ taken
    have step := salesStep taken
    exact ⟨inv.1.step step, inv.2.step inv.1 step⟩

theorem countP_eq_one {α : Type} {key : α → Nat} {xs : List α} (nodup : (xs.map key).Nodup)
    {x : α} (member : x ∈ xs) : xs.countP (fun y => key y = key x) = 1 := by
  have count : (xs.map key).count (key x) = 1 :=
    List.count_eq_one_of_mem nodup (List.mem_map_of_mem member)
  rw [← count, List.count, List.countP_map]
  exact List.countP_congr fun y _ => by simp

/-- **Stock conservation and pairing.** In every reachable state the stock of a product is
non-negative and with the committed orders adds up to the initial stock; a product without
an inventory row has no order; each committed order has exactly one event that announces
it, and each committed event announces a committed order. -/
theorem stock_conserved (stock : Int → Option Nat) (s : State)
    (reachable : (system stock).Reachable anyStep s) :
    (∀ productId n, stock productId = some n → ∃ left,
      s.db.inventory productId = some left ∧ 0 ≤ left ∧ left + sold s.db.orders productId = n) ∧
    (∀ productId, stock productId = none →
      s.db.inventory productId = none ∧ ∀ order ∈ s.db.orders, order.productId ≠ productId) ∧
    (∀ order ∈ s.db.orders, s.db.outboxEvents.countP (OutboxEvent.announces order.id) = 1) ∧
    (∀ event ∈ s.db.outboxEvents, ∃ order ∈ s.db.orders, event.announces order.id = true) := by
  have ledger := (sales_invariant reachable).2
  have paired := List.forall₂_map_right_iff.mp ledger.paired
  refine ⟨ledger.conserved, ledger.absent, ?_, ?_⟩
  · intro order member
    -- row for row, an event announces the order that stands beside it, and ids are distinct
    rw [← countP_eq_one ledger.orderIds.nodup member]
    exact (Registry.countP_forall₂ paired fun other event pairs =>
      (pairs.announces order.id).symm).symm
  · intro event member
    obtain ⟨order, present, pairs⟩ := Registry.forall₂_mem_right paired member
    exact ⟨order, present, by simp [pairs.announces]⟩

/-- Two buyers of the last item of product 7: both pass the precheck, the second meets the
guard. -/
def lastItem : State :=
  .after anyStep (fun productId => if productId = 7 then some 1 else none)
    [.create 0 ⟨1, 7, 1⟩ "a" [], .create 1 ⟨2, 7, 1⟩ "b" [], .query 0 true, .query 1 true,
      .query 1 true, .query 0 true, .query 0 true, .query 1 true, .query 0 true, .query 0 true,
      .query 1 true, .query 1 true]

theorem lastItem_conserved :
    lastItem.db.orders.map (·.quantity) = [1] ∧ lastItem.db.inventory 7 = some 0 ∧
    (∀ order ∈ lastItem.db.orders,
      lastItem.db.outboxEvents.countP (OutboxEvent.announces order.id) = 1) := by
  have reachable : (system _).Reachable anyStep lastItem := State.after_reachable ..
  exact ⟨by decide, by decide, (stock_conserved _ _ reachable).2.2.1⟩

end FlashSaleLab
