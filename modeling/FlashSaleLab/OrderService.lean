import FlashSaleLab.Postgres

/-!
# `OrderService.create`

A call runs as a state machine with one state for each statement it awaits. At READ
COMMITTED a transaction's inserts are invisible to others until it commits, so they
live in the call's state; only the sequences and the inventory row's lock are shared
before that. A statement and the code after its reply are one step: between the two a call
touches nothing shared, so a later reply only makes the call last longer. For the same reason
`finished` is the end of the work on the database, not the caller's answer: that one is then on
its way, and it is lost when the instance dies before it is out.
-/
namespace FlashSaleLab

abbrev InstanceId : Type := Nat
abbrev CallId : Type := Nat

inductive CreateOutcome where
  /-- `COMMIT` has taken effect -/
  | created (order : Order)
  /-- `ConflictException` -/
  | conflict
  /-- any other error -/
  | failed
  deriving DecidableEq

/-- The statement a call awaits. `committing` holds the row lock and the stock its
`UPDATE` wrote; `finished` records the step at which the call ended. -/
inductive CreatePc where
  | prechecking
  | insertingOrder
  | insertingOutbox (order : Order)
  | decreasing (order : Order) (event : OutboxEvent)
  | committing (order : Order) (event : OutboxEvent) (stock : Int)
  | rollingBack
  | finished (outcome : CreateOutcome) (moment : Nat)
  deriving DecidableEq

/-- A call with its arguments. `traceContext` is what `propagation.inject` puts into the
payload; `begunAt` is the step at which the call was made. -/
structure CreateCall where
  host : InstanceId
  input : CreateOrderInput
  requestId : String
  traceContext : List (String × Json)
  begunAt : Nat
  pc : CreatePc

namespace PrismaOrderUnitOfWork

/-- Ending a transaction gives up its row locks. -/
def rollback (db : Database) (id : CallId) : Database :=
  { db with lockedBy := fun productId =>
      if db.lockedBy productId = some id then none else db.lockedBy productId }

/-- `COMMIT` makes the inserted rows and the written stock visible at once. -/
def commit (db : Database) (id : CallId) (order : Order) (event : OutboxEvent) (stock : Int) :
    Database :=
  { rollback db id with
    inventory := Function.update db.inventory order.productId (some stock)
    orders := db.orders ++ [order]
    outboxEvents := db.outboxEvents ++ [event] }

end PrismaOrderUnitOfWork

namespace OrderService

open PrismaOrderUnitOfWork

/-- The event `create` hands to `outboxRepository.create`. -/
def outboxInput (call : CreateCall) (order : Order) : CreateOutboxEventInput where
  type := "ORDER_NOTIFICATION"
  payload := ⟨(order.id : Rat), call.requestId, call.traceContext⟩

/-- The awaited statement is executed (`ok`) or throws, and the code runs on to its next
await. It throws for any reason: the connection, a foreign key (an order of an unknown user), a
constraint; PostgreSQL then rolls the transaction back. `none` while the call has nothing to await
or waits for a row lock. -/
def create (db : Database) (id : CallId) (call : CreateCall) (ok : Bool) (moment : Nat) :
    Option (Database × CreatePc) :=
  match call.pc with
  | .finished _ _ => none
  -- the `ConflictException` leaves the callback once the transaction is rolled back
  | .rollingBack => some (rollback db id, .finished .conflict moment)
  | .prechecking =>
    if ok then
      -- `!inventory || inventory.stock < input.quantity`, read outside the transaction
      match PrismaInventoryRepository.findByProductId db.inventory call.input.productId with
      | none => some (db, .finished .conflict moment)
      | some stock =>
        if stock < call.input.quantity then some (db, .finished .conflict moment)
        else some (db, .insertingOrder)
    else some (db, .finished .failed moment)
  | .insertingOrder =>
    -- the sequence advances at once, the row stays in the transaction
    if ok then
      some ({ db with nextOrderId := db.nextOrderId + 1 },
        .insertingOutbox (PrismaOrderRepository.create call.input db.nextOrderId))
    else some (rollback db id, .finished .failed moment)
  | .insertingOutbox order =>
    if ok then
      some ({ db with nextOutboxId := db.nextOutboxId + 1 },
        .decreasing order
          (PrismaOutboxRepository.create (outboxInput call order) db.nextOutboxId))
    else some (rollback db id, .finished .failed moment)
  | .decreasing order event =>
    if ok then
      -- another transaction's lock on the row makes the UPDATE wait
      if db.lockedBy call.input.productId = none then
        match PrismaInventoryRepository.decreaseIfAvailable db.inventory call.input.productId
            call.input.quantity with
        | some stock =>
          some ({ db with lockedBy := Function.update db.lockedBy call.input.productId (some id) },
            .committing order event stock)
        -- `!decreased` throws inside the callback
        | none => some (db, .rollingBack)
      else none
    else some (rollback db id, .finished .failed moment)
  | .committing order event stock =>
    if ok then some (commit db id order event stock, .finished (.created order) moment)
    else some (rollback db id, .finished .failed moment)

/-- Everything one statement of a call can do. -/
inductive CreateStep (db : Database) (id : CallId) (call : CreateCall) (moment : Nat) :
    Database → CreatePc → Prop
  | precheckRejected (suspended : call.pc = .prechecking)
      (short : ∀ stock, db.inventory call.input.productId = some stock →
        stock < call.input.quantity) :
      CreateStep db id call moment db (.finished .conflict moment)
  | precheckPassed (suspended : call.pc = .prechecking) :
      CreateStep db id call moment db .insertingOrder
  | orderInserted (suspended : call.pc = .insertingOrder) :
      CreateStep db id call moment { db with nextOrderId := db.nextOrderId + 1 }
        (.insertingOutbox (PrismaOrderRepository.create call.input db.nextOrderId))
  | outboxInserted (order : Order) (suspended : call.pc = .insertingOutbox order) :
      CreateStep db id call moment { db with nextOutboxId := db.nextOutboxId + 1 }
        (.decreasing order
          (PrismaOutboxRepository.create (outboxInput call order) db.nextOutboxId))
  | decreased (order : Order) (event : OutboxEvent) (stock : Int)
      (suspended : call.pc = .decreasing order event)
      (free : db.lockedBy call.input.productId = none)
      (row : db.inventory call.input.productId = some stock)
      (enough : call.input.quantity ≤ stock) :
      CreateStep db id call moment
        { db with lockedBy := Function.update db.lockedBy call.input.productId (some id) }
        (.committing order event (stock - call.input.quantity))
  | guardFailed (order : Order) (event : OutboxEvent)
      (suspended : call.pc = .decreasing order event)
      (short : ∀ stock, db.inventory call.input.productId = some stock →
        stock < call.input.quantity) :
      CreateStep db id call moment db .rollingBack
  | committed (order : Order) (event : OutboxEvent) (stock : Int)
      (suspended : call.pc = .committing order event stock) :
      CreateStep db id call moment (commit db id order event stock)
        (.finished (.created order) moment)
  | conflicted (suspended : call.pc = .rollingBack) :
      CreateStep db id call moment (rollback db id) (.finished .conflict moment)
  | precheckFailed (suspended : call.pc = .prechecking) :
      CreateStep db id call moment db (.finished .failed moment)
  | failed (active : ∀ outcome ended, call.pc ≠ .finished outcome ended) :
      CreateStep db id call moment (rollback db id) (.finished .failed moment)

theorem create_cases {db db' : Database} {id : CallId} {call : CreateCall} {ok : Bool}
    {moment : Nat} {pc : CreatePc} (executed : create db id call ok moment = some (db', pc)) :
    CreateStep db id call moment db' pc := by
  unfold create at executed
  -- one goal for each statement the call may be suspended at
  split at executed
  next => cases executed
  next suspended =>
    cases executed
    exact .conflicted suspended
  next suspended =>
    cases ok with
    | false =>
      cases executed
      exact .precheckFailed suspended
    | true =>
      simp only [if_true, PrismaInventoryRepository.findByProductId] at executed
      split at executed
      next absent =>
        cases executed
        exact .precheckRejected suspended (by simp [absent])
      next stock row =>
        split at executed
        next short =>
          cases executed
          exact .precheckRejected suspended (by simpa [row] using short)
        next =>
          cases executed
          exact .precheckPassed suspended
  next suspended =>
    cases ok with
    | false => cases executed; exact .failed (by simp [suspended])
    | true => cases executed; exact .orderInserted suspended
  next order suspended =>
    cases ok with
    | false => cases executed; exact .failed (by simp [suspended])
    | true => cases executed; exact .outboxInserted order suspended
  next order event suspended =>
    cases ok with
    | false => cases executed; exact .failed (by simp [suspended])
    | true =>
      simp only [if_true] at executed
      split at executed
      next free =>
        split at executed
        next stock decreasedTo =>
          cases executed
          obtain ⟨old, row, enough, rfl⟩ :=
            PrismaInventoryRepository.decreaseIfAvailable_eq_some.mp decreasedTo
          exact .decreased order event old suspended free row enough
        next refused =>
          cases executed
          -- the guard matched no row: a row with enough stock would have been updated
          refine .guardFailed order event suspended fun stock row => ?_
          by_contra enough
          have matched := PrismaInventoryRepository.decreaseIfAvailable_eq_some.mpr
            ⟨stock, row, not_lt.mp enough, rfl⟩
          cases refused.symm.trans matched
      next => cases executed
  next order event stock suspended =>
    cases ok with
    | false => cases executed; exact .failed (by simp [suspended])
    | true => cases executed; exact .committed order event stock suspended

end OrderService

end FlashSaleLab
