import FlashSaleLab.RabbitMq

/-!
# `OutboxPublisherService.publishPending`

Each instance runs at most one cycle at a time: a tick that finds `activeExecutions`
positive is skipped. As in the consumer, `…ing` is an await whose call has not settled and
`…ed` one that has.
-/
namespace FlashSaleLab

/-- `rest` are the events of the batch after the current one. `claiming` and `marking` hold
the `new Date()` of their call; `publishing` holds the copy that was sent. -/
inductive PublisherPc where
  | idle
  | finding
  | found (reply : Settled (List PendingOutboxEvent))
  | claiming (event : PendingOutboxEvent) (rest : List PendingOutboxEvent) (startedAt : Time)
  | claimed (event : PendingOutboxEvent) (rest : List PendingOutboxEvent) (reply : Settled Bool)
  | publishing (event : PendingOutboxEvent) (rest : List PendingOutboxEvent) (copy : CopyId)
  | published (event : PendingOutboxEvent) (rest : List PendingOutboxEvent)
      (reply : Settled Unit)
  | marking (event : PendingOutboxEvent) (rest : List PendingOutboxEvent) (sentAt : Time)
  | marked (rest : List PendingOutboxEvent) (reply : Settled Unit)
  deriving DecidableEq

structure Publisher where
  activeExecutions : Nat
  pc : PublisherPc
  deriving DecidableEq

/-- What a segment published, if anything, and where the publisher is after it. -/
structure PublisherSegment where
  sent : Option Message
  publisher : Publisher

namespace OutboxPublisherService

def batchSize : Nat := 500

def initial : Publisher := ⟨0, .idle⟩

/-- A tick of the interval; `none` when it is skipped. -/
def publishPending (publisher : Publisher) : Option Publisher :=
  if publisher.activeExecutions > 0 then none
  else some ⟨publisher.activeExecutions + 1, .finding⟩

/-- The outer `finally`. -/
def finish (publisher : Publisher) : Publisher := ⟨publisher.activeExecutions - 1, .idle⟩

/-- The head of the `for` loop. -/
def next (publisher : Publisher) (now : Time) : List PendingOutboxEvent → Publisher
  | [] => finish publisher
  | event :: rest => { publisher with pc := .claiming event rest now }

/-- The code after a settled await. `unavailable` tells that `publishOrderNotification` has
no channel or its `sendToQueue` throws. -/
def resume (publisher : Publisher) (now : Time) (unavailable : Bool) (fresh : CopyId) :
    Option PublisherSegment :=
  match publisher.pc with
  | .found (.resolved events) => some ⟨none, next publisher now events⟩
  | .found .rejected => some ⟨none, finish publisher⟩
  | .claimed event rest (.resolved claimed) =>
    -- another publisher has the event: `continue`
    if !claimed then some ⟨none, next publisher now rest⟩
    -- a claimed event of another type stays `PROCESSING`
    else if event.type ≠ "ORDER_NOTIFICATION" then some ⟨none, next publisher now rest⟩
    else if unavailable then some ⟨none, finish publisher⟩
    else
      some ⟨some (RabbitMqService.message event.payload.orderId event.payload.requestId),
        { publisher with pc := .publishing event rest fresh }⟩
  -- an exception ends the whole cycle; the rest of the batch is not tried
  | .claimed _ _ .rejected => some ⟨none, finish publisher⟩
  | .published event rest (.resolved _) =>
    some ⟨none, { publisher with pc := .marking event rest now }⟩
  | .published _ _ .rejected => some ⟨none, finish publisher⟩
  | .marked rest (.resolved _) => some ⟨none, next publisher now rest⟩
  | .marked _ .rejected => some ⟨none, finish publisher⟩
  | _ => none

theorem resume_unavailable {fresh : CopyId} {segment : PublisherSegment}
    (resumed : resume publisher now true fresh = some segment) : segment.sent = none := by
  unfold resume at resumed
  split at resumed
  case h_3 =>
    split at resumed
    · cases resumed; rfl
    · split at resumed
      · cases resumed; rfl
      · cases resumed; rfl
  all_goals cases resumed; try rfl

/-- The awaited call ends. -/
def settle (events : List OutboxEvent) (publisher : Publisher) (stored : CopyId → Bool)
    (result : CallResult) : Option (List OutboxEvent × Publisher) :=
  match publisher.pc with
  | .finding =>
    -- an invalid payload rejects like a failed query
    let reply := match PrismaOutboxRepository.findPending events batchSize with
      | .ok pending => result.settle pending
      | .error _ => .rejected
    some (events, { publisher with pc := .found reply })
  | .claiming event rest startedAt =>
    let update := PrismaOutboxRepository.claim events event.id startedAt
    some (if result.applied then update.1 else events,
      { publisher with pc := .claimed event rest (result.settle update.2) })
  | .publishing event rest copy =>
    match result with
    | .ok =>
      -- `waitForConfirms` resolves once the broker has stored the message
      if stored copy then
        some (events, { publisher with pc := .published event rest (.resolved ()) })
      else none
    | .failed _ => some (events, { publisher with pc := .published event rest .rejected })
  | .marking event rest sentAt =>
    -- `markAsSent` does not look at the status or at who holds the claim
    match PrismaOutboxRepository.markAsSent events event.id sentAt with
    | some update =>
      some (if result.applied then update else events,
        { publisher with pc := .marked rest (result.settle ()) })
    | none => some (events, { publisher with pc := .marked rest .rejected })
  | _ => none

end OutboxPublisherService

end FlashSaleLab
