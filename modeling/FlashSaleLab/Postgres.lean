import FlashSaleLab.JavaScript
import Mathlib.Data.List.Sort

/-!
# PostgreSQL: tables and repositories

The tables the modelled services read and write, and the Prisma repositories as
functions on the committed rows. Columns no modelled code reads (`created_at`,
`updated_at`, an order's `status`, the surrogate key of an inventory row) are left
out. Times are milliseconds, as in a JavaScript `Date`.
-/
namespace FlashSaleLab

abbrev Time : Type := Nat

structure CreateOrderInput where
  userId : Int
  productId : Int
  quantity : Int
  deriving DecidableEq

structure Order extends CreateOrderInput where
  id : Nat
  deriving DecidableEq

inductive OutboxStatus where
  | pending
  | processing
  | sent
  deriving DecidableEq

structure OutboxEvent where
  id : Nat
  type : String
  payload : Json
  status : OutboxStatus
  processingStartedAt : Option Time
  sentAt : Option Time
  deriving DecidableEq

/-- `payload` as the TypeScript types have it. `orderId` is a JavaScript number. -/
structure OutboxPayload where
  orderId : Rat
  requestId : String
  traceContext : List (String × Json)
  deriving DecidableEq

def OutboxPayload.toJson (payload : OutboxPayload) : Json :=
  .object [("orderId", .number payload.orderId), ("requestId", .string payload.requestId),
    ("traceContext", .object payload.traceContext)]

structure CreateOutboxEventInput where
  type : String
  payload : OutboxPayload

structure PendingOutboxEvent where
  id : Nat
  type : String
  payload : OutboxPayload
  deriving DecidableEq

/-- The committed state. `inventory` maps a product to its stock; `lockedBy` is the
open transaction that holds the inventory row's lock. The two counters are the
`SERIAL` sequences, which a rollback does not turn back. -/
structure Database where
  inventory : Int → Option Int
  lockedBy : Int → Option Nat
  orders : List Order
  outboxEvents : List OutboxEvent
  nextOrderId : Nat
  nextOutboxId : Nat

/-- Prisma's `updateMany`: the rows afterwards and how many the condition matched. -/
def updateMany {α : Type} (rows : List α) (cond : α → Bool) (data : α → α) : List α × Nat :=
  (rows.map fun row => if cond row then data row else row, rows.countP cond)

theorem mem_updateMany {α : Type} {rows : List α} {cond : α → Bool} {data : α → α} {row : α} :
    row ∈ (updateMany rows cond data).1 ↔
      ∃ old ∈ rows, (if cond old then data old else old) = row := by
  simp [updateMany]

/-- What `data` leaves alone, `updateMany` leaves alone. -/
theorem updateMany_map {α β : Type} {f : α → β} {rows : List α} {cond : α → Bool} {data : α → α}
    (kept : ∀ row, f (data row) = f row) :
    (updateMany rows cond data).1.map f = rows.map f := by
  simp only [updateMany, List.map_map]
  refine List.map_congr_left fun row _ => ?_
  simp only [Function.comp]
  split
  · exact kept row
  · rfl

namespace PrismaInventoryRepository

def findByProductId (inventory : Int → Option Int) (productId : Int) : Option Int :=
  inventory productId

/-- The guarded `UPDATE` on the committed row: the new stock when `stock >= quantity`
matched one row, `none` when it matched none. -/
def decreaseIfAvailable (inventory : Int → Option Int) (productId quantity : Int) : Option Int :=
  match inventory productId with
  | some stock => if quantity ≤ stock then some (stock - quantity) else none
  | none => none

theorem decreaseIfAvailable_eq_some {inventory : Int → Option Int} {productId quantity left : Int} :
    decreaseIfAvailable inventory productId quantity = some left ↔
      ∃ stock, inventory productId = some stock ∧ quantity ≤ stock ∧ left = stock - quantity := by
  unfold decreaseIfAvailable
  cases inventory productId with
  | none => simp
  | some stock =>
    simp only [Option.ite_none_right_eq_some, Option.some.injEq, exists_eq_left']
    exact and_congr_right fun _ => eq_comm

end PrismaInventoryRepository

namespace PrismaOrderRepository

def create (input : CreateOrderInput) (id : Nat) : Order := { input with id }

end PrismaOrderRepository

namespace PrismaOutboxRepository

/-- The inserted row: the schema's defaults fill the other columns. -/
def create (input : CreateOutboxEventInput) (id : Nat) : OutboxEvent where
  id
  type := input.type
  payload := input.payload.toJson
  status := .pending
  processingStartedAt := none
  sentAt := none

/-- The checks inside `findPending`'s `map`. -/
def toPending (event : OutboxEvent) : Except String PendingOutboxEvent :=
  match event.payload with
  | .object fields =>
    -- `typeof payload.orderId !== 'number' || typeof payload.requestId !== 'string'`
    match fields.lookup "orderId", fields.lookup "requestId" with
    | some (.number orderId), some (.string requestId) =>
      match fields.lookup "traceContext" with
      | some (.object traceContext) =>
        .ok ⟨event.id, event.type, ⟨orderId, requestId, traceContext⟩⟩
      | _ => .error "Invalid traceContext"
    | _, _ => .error ("Invalid outbox payload: " ++ toString event.id)
  -- null, an array and a primitive are no payload
  | _ => .error ("Invalid outbox payload: " ++ toString event.id)

/-- One row with an invalid payload makes the whole call throw. -/
def findPending (events : List OutboxEvent) (limit : Nat) :
    Except String (List PendingOutboxEvent) :=
  (((events.filter (·.status = .pending)).insertionSort (·.id ≤ ·.id)).take limit).mapM toPending

/-- `update` by primary key throws when there is no such row. -/
def markAsSent (events : List OutboxEvent) (id : Nat) (sentAt : Time) :
    Option (List OutboxEvent) :=
  if events.any (·.id = id) then
    some (updateMany events (·.id = id) fun event =>
      { event with status := .sent, sentAt := some sentAt, processingStartedAt := none }).1
  else none

/-- Only a `PENDING` row can be claimed, and only one row has the id. -/
def claim (events : List OutboxEvent) (id : Nat) (startedAt : Time) : List OutboxEvent × Bool :=
  let result := updateMany events (fun event => event.id = id ∧ event.status = .pending)
    fun event => { event with status := .processing, processingStartedAt := some startedAt }
  (result.1, result.2 = 1)

/-- The condition `processingStartedAt < now - 30_000`; a null never matches. -/
def stuck (now : Time) (event : OutboxEvent) : Bool :=
  event.status = .processing &&
    match event.processingStartedAt with
    | some startedAt => decide (startedAt + 30000 < now)
    | none => false

/-- `now` is `Date.now()` when the call was made. -/
def recoverStuckProcessing (events : List OutboxEvent) (now : Time) : List OutboxEvent × Nat :=
  updateMany events (stuck now) fun event =>
    { event with status := .pending, processingStartedAt := none }

/-- What a row keeps for ever. -/
def identity (event : OutboxEvent) : Nat × String × Json := (event.id, event.type, event.payload)

theorem claim_identity (rows : List OutboxEvent) (id : Nat) (startedAt : Time) :
    (claim rows id startedAt).1.map identity = rows.map identity :=
  updateMany_map fun _ => rfl

theorem markAsSent_identity {rows rows' : List OutboxEvent} {id : Nat} {sentAt : Time}
    (marked : markAsSent rows id sentAt = some rows') :
    rows'.map identity = rows.map identity := by
  unfold markAsSent at marked
  split at marked
  · cases marked
    exact updateMany_map fun _ => rfl
  · cases marked

theorem recoverStuckProcessing_identity (rows : List OutboxEvent) (now : Time) :
    (recoverStuckProcessing rows now).1.map identity = rows.map identity :=
  updateMany_map fun _ => rfl

theorem ids_of_identity {rows rows' : List OutboxEvent}
    (same : rows'.map identity = rows.map identity) : rows'.map (·.id) = rows.map (·.id) := by
  simpa [identity, Function.comp_def] using congrArg (List.map Prod.fst) same

/-- A payload that was stored by `create` passes the checks and comes back unchanged. -/
theorem toPending_create (input : CreateOutboxEventInput) (id : Nat) :
    toPending (create input id) = .ok ⟨id, input.type, input.payload⟩ := by
  rfl

theorem toPending_ok {event : OutboxEvent} {pending : PendingOutboxEvent}
    (checked : toPending event = .ok pending) :
    pending.id = event.id ∧ pending.type = event.type ∧
      event.payload.property "orderId" = .ok (some (.number pending.payload.orderId)) ∧
      event.payload.property "requestId" = .ok (some (.string pending.payload.requestId)) := by
  unfold toPending at checked
  -- the checks in the order of the source; only the innermost branch returns an event
  split at checked
  next fields payload =>
    split at checked
    next orderId requestId hasOrder hasRequest =>
      split at checked
      · cases checked
        simp [payload, Json.property, hasOrder, hasRequest]
      · cases checked
    · cases checked
  · cases checked

end PrismaOutboxRepository

end FlashSaleLab
