import FlashSaleLab.Foundations.Throwing
import FlashSaleLab.OutboxPublisher
import Mathlib.Logic.Relation

/-!
# One cycle of `publishPending` as a whole

With nobody else at the table a cycle is a program: the batch loop with its three calls for each
event, and the `finally` around it. How each call ends is given. `publishPending_steps` says that
the program is a run of the publisher that the system interleaves with everything else.
-/
namespace FlashSaleLab

/-- Why `publishOrderNotification` rejects: `this.channel` is not set, `sendToQueue` throws, or
`waitForConfirms` rejects. -/
inductive PublishFault where
  | noChannel
  | sendThrows (error : String)
  | unconfirmed (error : String)

def PublishFault.error : PublishFault → String
  | .noChannel => "RabbitMQ channel is not available"
  | .sendThrows error => error
  | .unconfirmed error => error

/-- How the calls of a cycle end: the error with which the call rejects, if it does, and the
`new Date()` of a query. The calls for an event go by its id. -/
structure CycleCalls where
  findPending : Option String
  claim : Nat → Option String
  publish : Nat → Option PublishFault
  markAsSent : Nat → Option String
  claimedAt : Nat → Time
  sentAt : Nat → Time

/-- The table, the field of the service, what was given to `sendToQueue` and what of it was
confirmed, the oldest first. -/
structure CycleState where
  outboxEvents : List OutboxEvent
  activeExecutions : Nat
  sent : List Message
  confirmed : List Message

/-- What is published for the event. -/
def PendingOutboxEvent.message (event : PendingOutboxEvent) : Message :=
  RabbitMqService.message event.payload.orderId event.payload.requestId

/-- An exception does not turn the state back. -/
abbrev Cycle : Type → Type := EStateM String CycleState

namespace Cycle

/-- A query that rejects has had no effect. -/
def query {α : Type} (rejection : Option String) (statement : Cycle α) : Cycle α :=
  match rejection with
  | some error => throw error
  | none => statement

def findPending (calls : CycleCalls) : Cycle (List PendingOutboxEvent) :=
  query calls.findPending do
    match PrismaOutboxRepository.findPending (← get).outboxEvents
        OutboxPublisherService.batchSize with
    | .ok events => return events
    | .error error => throw error

def claim (calls : CycleCalls) (id : Nat) : Cycle Bool :=
  query (calls.claim id) do
    let result := PrismaOutboxRepository.claim (← get).outboxEvents id (calls.claimedAt id)
    modify fun s => { s with outboxEvents := result.1 }
    return result.2

def markAsSent (calls : CycleCalls) (id : Nat) : Cycle Unit :=
  query (calls.markAsSent id) do
    match PrismaOutboxRepository.markAsSent (← get).outboxEvents id (calls.sentAt id) with
    | some rows => modify fun s => { s with outboxEvents := rows }
    -- `update` throws where `updateMany` would count 0
    | none => throw "No record was found for an update."

def publishOrderNotification (fault : Option PublishFault) (orderId : Rat) (requestId : String) :
    Cycle Unit := do
  let message := RabbitMqService.message orderId requestId
  match fault with
  | none => modify fun s =>
      { s with sent := s.sent ++ [message], confirmed := s.confirmed ++ [message] }
  -- the broker may have the message all the same
  | some (.unconfirmed error) =>
    modify fun s => { s with sent := s.sent ++ [message] }
    throw error
  | some fault => throw fault.error

/-- The body of the `for` loop. -/
def publishEvent (calls : CycleCalls) (event : PendingOutboxEvent) : Cycle Unit := do
  let claimed ← claim calls event.id
  if !claimed then
    return
  -- an event of another type has been claimed by now
  if event.type ≠ "ORDER_NOTIFICATION" then
    return
  publishOrderNotification (calls.publish event.id) event.payload.orderId event.payload.requestId
  markAsSent calls event.id

def publishPending (calls : CycleCalls) : Cycle Unit := do
  -- the tick is skipped, and the counter left alone
  if (← get).activeExecutions > 0 then
    return
  modify fun s => { s with activeExecutions := s.activeExecutions + 1 }
  try
    let events ← findPending calls
    events.forM (publishEvent calls)
  finally
    modify fun s => { s with activeExecutions := s.activeExecutions - 1 }

/-- The row is claimed, if it is there to be claimed. -/
def afterClaim (calls : CycleCalls) (id : Nat) (s : CycleState) : CycleState :=
  { s with
    outboxEvents := (PrismaOutboxRepository.claim s.outboxEvents id (calls.claimedAt id)).1 }

def afterSend (message : Message) (s : CycleState) : CycleState :=
  { s with sent := s.sent ++ [message] }

def afterConfirm (message : Message) (s : CycleState) : CycleState :=
  { s with sent := s.sent ++ [message], confirmed := s.confirmed ++ [message] }

/-- What is left of a publication that failed. -/
def afterFault (message : Message) (s : CycleState) : PublishFault → CycleState
  | .unconfirmed _ => afterSend message s
  | _ => s

/-- How the body of the loop ends. -/
inductive EventRun (calls : CycleCalls) (event : PendingOutboxEvent) (s : CycleState) :
    EStateM.Result String CycleState Unit → Prop
  | claimRejected (error : String) (rejects : calls.claim event.id = some error) :
      EventRun calls event s (.error error s)
  | missed (claims : calls.claim event.id = none)
      (lost : (PrismaOutboxRepository.claim s.outboxEvents event.id
        (calls.claimedAt event.id)).2 = false) :
      EventRun calls event s (.ok () (afterClaim calls event.id s))
  | foreign (claims : calls.claim event.id = none)
      (won : (PrismaOutboxRepository.claim s.outboxEvents event.id
        (calls.claimedAt event.id)).2 = true)
      (other : event.type ≠ "ORDER_NOTIFICATION") :
      EventRun calls event s (.ok () (afterClaim calls event.id s))
  | publishRejected (fault : PublishFault) (claims : calls.claim event.id = none)
      (won : (PrismaOutboxRepository.claim s.outboxEvents event.id
        (calls.claimedAt event.id)).2 = true)
      (own : event.type = "ORDER_NOTIFICATION") (rejects : calls.publish event.id = some fault) :
      EventRun calls event s (.error fault.error
        (afterFault event.message (afterClaim calls event.id s) fault))
  | markRejected (error : String) (claims : calls.claim event.id = none)
      (won : (PrismaOutboxRepository.claim s.outboxEvents event.id
        (calls.claimedAt event.id)).2 = true)
      (own : event.type = "ORDER_NOTIFICATION") (publishes : calls.publish event.id = none)
      (rejects : calls.markAsSent event.id = some error) :
      EventRun calls event s
        (.error error (afterConfirm event.message (afterClaim calls event.id s)))
  | unmarked (error : String) (claims : calls.claim event.id = none)
      (won : (PrismaOutboxRepository.claim s.outboxEvents event.id
        (calls.claimedAt event.id)).2 = true)
      (own : event.type = "ORDER_NOTIFICATION") (publishes : calls.publish event.id = none)
      (marks : calls.markAsSent event.id = none)
      (missing : PrismaOutboxRepository.markAsSent (afterClaim calls event.id s).outboxEvents
        event.id (calls.sentAt event.id) = none) :
      EventRun calls event s
        (.error error (afterConfirm event.message (afterClaim calls event.id s)))
  | published (rows : List OutboxEvent) (claims : calls.claim event.id = none)
      (won : (PrismaOutboxRepository.claim s.outboxEvents event.id
        (calls.claimedAt event.id)).2 = true)
      (own : event.type = "ORDER_NOTIFICATION") (publishes : calls.publish event.id = none)
      (marks : calls.markAsSent event.id = none)
      (updated : PrismaOutboxRepository.markAsSent (afterClaim calls event.id s).outboxEvents
        event.id (calls.sentAt event.id) = some rows) :
      EventRun calls event s (.ok ()
        { afterConfirm event.message (afterClaim calls event.id s) with outboxEvents := rows })

section Calls

variable {calls : CycleCalls} {id : Nat} {s : CycleState} {error : String}

theorem claim_run (claims : calls.claim id = none) :
    (claim calls id).run s =
      .ok (PrismaOutboxRepository.claim s.outboxEvents id (calls.claimedAt id)).2
        (afterClaim calls id s) := by
  simp only [claim, query, claims]
  rfl

theorem claim_rejects (rejects : calls.claim id = some error) :
    (claim calls id).run s = .error error s := by
  simp only [claim, query, rejects]
  rfl

theorem publish_run (orderId : Rat) (requestId : String) :
    (publishOrderNotification none orderId requestId).run s =
      .ok () (afterConfirm (RabbitMqService.message orderId requestId) s) :=
  rfl

theorem publish_rejects (fault : PublishFault) (orderId : Rat) (requestId : String) :
    (publishOrderNotification (some fault) orderId requestId).run s =
      .error fault.error (afterFault (RabbitMqService.message orderId requestId) s fault) := by
  cases fault <;> rfl

theorem markAsSent_run {rows : List OutboxEvent} (marks : calls.markAsSent id = none)
    (updated : PrismaOutboxRepository.markAsSent s.outboxEvents id (calls.sentAt id) = some rows) :
    (markAsSent calls id).run s = .ok () { s with outboxEvents := rows } := by
  simp only [markAsSent, query, marks, EStateM.run_bind, EStateM.run_get, updated]
  rfl

theorem markAsSent_missing (marks : calls.markAsSent id = none)
    (missing : PrismaOutboxRepository.markAsSent s.outboxEvents id (calls.sentAt id) = none) :
    ∃ error, (markAsSent calls id).run s = .error error s := by
  simp only [markAsSent, query, marks, EStateM.run_bind, EStateM.run_get, missing]
  exact ⟨_, rfl⟩

theorem markAsSent_rejects (rejects : calls.markAsSent id = some error) :
    (markAsSent calls id).run s = .error error s := by
  simp only [markAsSent, query, rejects]
  rfl

end Calls

theorem publishEvent_run (calls : CycleCalls) (event : PendingOutboxEvent) (s : CycleState) :
    EventRun calls event s ((publishEvent calls event).run s) := by
  unfold publishEvent
  rw [EStateM.run_bind]
  -- await by await: a call that rejects ends the body
  cases claims : calls.claim event.id with
  | some error =>
    rw [claim_rejects claims]
    exact .claimRejected error claims
  | none =>
    rw [claim_run claims]
    cases won : (PrismaOutboxRepository.claim s.outboxEvents event.id
        (calls.claimedAt event.id)).2 with
    | false => exact .missed claims won
    | true =>
      by_cases own : event.type = "ORDER_NOTIFICATION"
      · simp only [Bool.not_true, Bool.false_eq_true, if_false, own, ne_eq, not_true_eq_false,
          EStateM.run_bind]
        cases publishes : calls.publish event.id with
        | some fault =>
          rw [publish_rejects]
          exact .publishRejected fault claims won own publishes
        | none =>
          rw [publish_run]
          cases marks : calls.markAsSent event.id with
          | some error =>
            simp only [markAsSent_rejects marks]
            exact .markRejected error claims won own publishes marks
          | none =>
            cases updated : PrismaOutboxRepository.markAsSent
                (afterClaim calls event.id s).outboxEvents event.id (calls.sentAt event.id) with
            | some rows =>
              have marked := markAsSent_run (s := afterConfirm event.message
                (afterClaim calls event.id s)) marks updated
              simp only [PendingOutboxEvent.message] at marked
              simp only [marked]
              exact .published rows claims won own publishes marks updated
            | none =>
              obtain ⟨error, threw⟩ := markAsSent_missing (s := afterConfirm event.message
                (afterClaim calls event.id s)) marks updated
              simp only [PendingOutboxEvent.message] at threw
              simp only [threw]
              exact .unmarked error claims won own publishes marks updated
      · simp only [Bool.not_true, Bool.false_eq_true, if_false, own, ne_eq, not_false_eq_true,
          if_true, EStateM.run_pure]
        exact .foreign claims won own

/-- The outer `finally`. -/
def finished (s : CycleState) : CycleState := { s with activeExecutions := s.activeExecutions - 1 }

section Cycles

variable {calls : CycleCalls} {s : CycleState} {events : List PendingOutboxEvent} {error : String}

/-- No event changes `activeExecutions`. -/
theorem EventRun.activeExecutions {event : PendingOutboxEvent}
    {result : EStateM.Result String CycleState Unit} (run : EventRun calls event s result) :
    (Throwing.after result).activeExecutions = s.activeExecutions := by
  cases run with
  | publishRejected fault => cases fault <;> rfl
  | _ => rfl

theorem forM_activeExecutions (calls : CycleCalls) (events : List PendingOutboxEvent)
    (s : CycleState) :
    (Throwing.after ((events.forM (publishEvent calls)).run s)).activeExecutions =
      s.activeExecutions :=
  Throwing.forM_keeps (P := fun later => later.activeExecutions = s.activeExecutions)
    (publishEvent calls) (fun event later same =>
      (publishEvent_run calls event later).activeExecutions.trans same) events rfl

/-- A tick during a cycle is skipped. -/
theorem publishPending_busy (busy : 0 < s.activeExecutions) :
    (publishPending calls).run s = .ok () s := by
  unfold publishPending
  rw [EStateM.run_bind, EStateM.run_get]
  simp only [gt_iff_lt, busy, if_true]
  rfl

theorem publishPending_run (idle : s.activeExecutions = 0) (queried : calls.findPending = none)
    (found : PrismaOutboxRepository.findPending s.outboxEvents OutboxPublisherService.batchSize =
      .ok events) :
    (publishPending calls).run s =
      match (events.forM (publishEvent calls)).run { s with activeExecutions := 1 } with
      | .ok value s' => .ok value (finished s')
      | .error error s' => .error error (finished s') := by
  unfold publishPending
  rw [EStateM.run_bind, EStateM.run_get]
  simp only [idle, gt_iff_lt, Nat.lt_irrefl, if_false, EStateM.run_bind, EStateM.run_modify]
  rw [Throwing.run_finally]
  simp only [findPending, query, queried, EStateM.run_bind, EStateM.run_get, found, Nat.zero_add,
    EStateM.run_pure]
  cases (events.forM (publishEvent calls)).run { s with activeExecutions := 1 } <;> rfl

theorem publishPending_after (idle : s.activeExecutions = 0) (queried : calls.findPending = none)
    (found : PrismaOutboxRepository.findPending s.outboxEvents OutboxPublisherService.batchSize =
      .ok events) :
    Throwing.after ((publishPending calls).run s) =
      finished (Throwing.after
        ((events.forM (publishEvent calls)).run { s with activeExecutions := 1 })) := by
  rw [publishPending_run idle queried found]
  cases (events.forM (publishEvent calls)).run { s with activeExecutions := 1 } <;> rfl

/-- The query rejects, or the payload of a row does not pass the checks. -/
theorem publishPending_rejects (idle : s.activeExecutions = 0)
    (rejects : calls.findPending = some error ∨ (calls.findPending = none ∧
      PrismaOutboxRepository.findPending s.outboxEvents OutboxPublisherService.batchSize =
        .error error)) :
    (publishPending calls).run s = .error error s := by
  unfold publishPending
  rw [EStateM.run_bind, EStateM.run_get]
  simp only [idle, gt_iff_lt, Nat.lt_irrefl, if_false, EStateM.run_bind, EStateM.run_modify]
  rw [Throwing.run_finally]
  -- the `finally` takes back the increment
  have same : { s with activeExecutions := 0 } = s := by rw [← idle]
  rcases rejects with failed | ⟨queried, invalid⟩
  · simp only [findPending, query, failed, EStateM.run_bind]
    rw [← same]
    rfl
  · simp only [findPending, query, queried, EStateM.run_bind, EStateM.run_get, invalid]
    rw [← same]
    rfl

end Cycles

end Cycle

/-! ### The cycle as a run of the publisher -/

/-- A publisher alone with its table, and what it has given to `sendToQueue`. -/
structure LonePublisher where
  outboxEvents : List OutboxEvent
  publisher : Publisher
  sent : List Message

namespace LonePublisher

open OutboxPublisherService

/-- What the system lets a publisher do. -/
inductive Step (p : LonePublisher) : LonePublisher → Prop
  | started (publisher : Publisher) (begun : publishPending p.publisher = some publisher) :
      Step p { p with publisher }
  | settled (stored : CopyId → Bool) (result : CallResult) (outboxEvents : List OutboxEvent)
      (publisher : Publisher)
      (ended : settle p.outboxEvents p.publisher stored result = some (outboxEvents, publisher)) :
      Step p { p with outboxEvents, publisher }
  | resumed (now : Time) (unavailable : Bool) (fresh : CopyId) (segment : PublisherSegment)
      (continued : resume p.publisher now unavailable fresh = some segment) :
      Step p { p with publisher := segment.publisher, sent := p.sent ++ segment.sent.toList }

abbrev Steps : LonePublisher → LonePublisher → Prop := Relation.ReflTransGen Step

variable {rows : List OutboxEvent} {k : Nat} {pc : PublisherPc} {sent : List Message}
  {p : LonePublisher}

/-- The awaited call ends, and the code runs on without sending anything. -/
theorem steps_await {rows' : List OutboxEvent} {publisher' : Publisher} (publisher : Publisher)
    (stored : CopyId → Bool) (result : CallResult) (now : Time)
    (ended : settle rows ⟨k, pc⟩ stored result = some (rows', publisher))
    (continued : resume publisher now false 0 = some ⟨none, publisher'⟩)
    (rest : Steps ⟨rows', publisher', sent⟩ p) : Steps ⟨rows, ⟨k, pc⟩, sent⟩ p := by
  refine .head (.settled stored result rows' publisher ended) ?_
  refine .head (.resumed now false 0 ⟨none, publisher'⟩ continued) ?_
  simpa using rest

/-- When the next event is claimed. -/
def claimTime (calls : CycleCalls) : List PendingOutboxEvent → Time
  | [] => 0
  | event :: _ => calls.claimedAt event.id

/-- The publisher at the head of the loop, at the claim of the next event or at the end. -/
def atLoop (calls : CycleCalls) (k : Nat) (events : List PendingOutboxEvent) (s : CycleState) :
    LonePublisher :=
  ⟨s.outboxEvents, next ⟨k + 1, .idle⟩ (claimTime calls events) events, s.sent⟩

/-- The publisher once the cycle is over. -/
def atEnd (k : Nat) (s : CycleState) : LonePublisher := ⟨s.outboxEvents, ⟨k, .idle⟩, s.sent⟩

/-- The head of the loop does not look at where the publisher was. -/
theorem next_eq (now : Time) (events : List PendingOutboxEvent) :
    next ⟨k, pc⟩ now events = next ⟨k, .idle⟩ now events := by
  cases events <;> rfl

section Loop

variable {calls : CycleCalls} {event : PendingOutboxEvent} {rest : List PendingOutboxEvent}
  {s : CycleState}

theorem claim_rejected_steps :
    Steps (atLoop calls k (event :: rest) s) (atEnd k s) :=
  steps_await ⟨k + 1, .claimed event rest .rejected⟩ (fun _ => true) (.failed false) 0 rfl rfl .refl

/-- The claim query succeeds. -/
theorem claim_steps
    (later : Steps ⟨(Cycle.afterClaim calls event.id s).outboxEvents,
      ⟨k + 1, .claimed event rest (.resolved (PrismaOutboxRepository.claim s.outboxEvents event.id
        (calls.claimedAt event.id)).2)⟩, s.sent⟩ p) :
    Steps (atLoop calls k (event :: rest) s) p :=
  .head (.settled (fun _ => true) .ok _ _ rfl) later

/-- The code after an await runs on without sending anything. -/
theorem steps_resume {publisher : Publisher} (publisher' : Publisher) (now : Time)
    (unavailable : Bool)
    (continued : resume publisher now unavailable 0 = some ⟨none, publisher'⟩)
    (later : Steps ⟨rows, publisher', sent⟩ p) : Steps ⟨rows, publisher, sent⟩ p := by
  refine .head (.resumed now unavailable 0 ⟨none, publisher'⟩ continued) ?_
  simpa using later

/-- The event is passed over. -/
theorem skip_steps
    (skipped : (PrismaOutboxRepository.claim s.outboxEvents event.id
        (calls.claimedAt event.id)).2 = false ∨ event.type ≠ "ORDER_NOTIFICATION") :
    Steps (atLoop calls k (event :: rest) s)
      (atLoop calls k rest (Cycle.afterClaim calls event.id s)) := by
  refine claim_steps (steps_resume _ (claimTime calls rest) false ?_ .refl)
  simp only [resume, next_eq]
  rcases skipped with lost | other
  · simp [lost]
  · simp [other]

/-- The message goes to the channel. -/
theorem send_steps (won : (PrismaOutboxRepository.claim s.outboxEvents event.id
      (calls.claimedAt event.id)).2 = true) (own : event.type = "ORDER_NOTIFICATION")
    (later : Steps ⟨(Cycle.afterClaim calls event.id s).outboxEvents,
      ⟨k + 1, .publishing event rest 0⟩, s.sent ++ [event.message]⟩ p) :
    Steps (atLoop calls k (event :: rest) s) p := by
  refine claim_steps ?_
  rw [won]
  refine .head (.resumed 0 false 0 ⟨some event.message, ⟨k + 1, .publishing event rest 0⟩⟩ ?_) later
  simp [resume, own, PendingOutboxEvent.message]

/-- There is no channel, or `sendToQueue` throws. -/
theorem unsent_steps (won : (PrismaOutboxRepository.claim s.outboxEvents event.id
      (calls.claimedAt event.id)).2 = true) (own : event.type = "ORDER_NOTIFICATION") :
    Steps (atLoop calls k (event :: rest) s)
      (atEnd k (Cycle.afterClaim calls event.id s)) := by
  refine claim_steps ?_
  rw [won]
  refine steps_resume ⟨k, .idle⟩ 0 true ?_ .refl
  simp [resume, own, finish]

/-- The confirmation comes, and `markAsSent` is called. -/
theorem confirm_steps (now : Time)
    (later : Steps ⟨rows, ⟨k + 1, .marking event rest now⟩, sent⟩ p) :
    Steps ⟨rows, ⟨k + 1, .publishing event rest 0⟩, sent⟩ p :=
  steps_await ⟨k + 1, .published event rest (.resolved ())⟩ (fun _ => true) .ok now rfl rfl later

/-- `waitForConfirms` rejects. -/
theorem unconfirmed_steps :
    Steps ⟨rows, ⟨k + 1, .publishing event rest 0⟩, sent⟩ ⟨rows, ⟨k, .idle⟩, sent⟩ :=
  steps_await ⟨k + 1, .published event rest .rejected⟩ (fun _ => true) (.failed false) 0 rfl rfl
    .refl

/-- `markAsSent` rejects. -/
theorem mark_rejected_steps {now : Time} :
    Steps ⟨rows, ⟨k + 1, .marking event rest now⟩, sent⟩ ⟨rows, ⟨k, .idle⟩, sent⟩ := by
  refine steps_await ⟨k + 1, .marked rest .rejected⟩ (fun _ => true) (.failed false) 0 ?_ rfl .refl
  simp only [settle]
  cases PrismaOutboxRepository.markAsSent rows event.id now <;> rfl

/-- Where the body of the loop leaves the publisher: at the next event, or at the end. -/
def afterBody (calls : CycleCalls) (k : Nat) (rest : List PendingOutboxEvent) :
    EStateM.Result String CycleState Unit → LonePublisher
  | .ok _ s => atLoop calls k rest s
  | .error _ s => atEnd k s

theorem publishEvent_steps (rest : List PendingOutboxEvent)
    {result : EStateM.Result String CycleState Unit} (run : Cycle.EventRun calls event s result) :
    Steps (atLoop calls k (event :: rest) s) (afterBody calls k rest result) := by
  cases run with
  | claimRejected error rejects => exact claim_rejected_steps
  | missed claims lost => exact skip_steps (Or.inl lost)
  | foreign claims won other => exact skip_steps (Or.inr other)
  -- only a message whose confirm fails has been sent
  | publishRejected fault claims won own rejects =>
    cases fault with
    | noChannel | sendThrows error => exact unsent_steps won own
    | unconfirmed error => exact send_steps won own unconfirmed_steps
  | markRejected error claims won own publishes rejects =>
    exact send_steps won own (confirm_steps (calls.sentAt event.id) mark_rejected_steps)
  | unmarked error claims won own publishes marks missing =>
    exact send_steps won own (confirm_steps (calls.sentAt event.id) mark_rejected_steps)
  | published rows claims won own publishes marks updated =>
    refine send_steps won own (confirm_steps (calls.sentAt event.id) ?_)
    refine steps_await ⟨k + 1, .marked rest (.resolved ())⟩ (fun _ => true) .ok
      (claimTime calls rest) ?_ ?_ .refl
    · simp only [settle, updated]
      rfl
    · simp only [resume, next_eq]

theorem forM_steps (calls : CycleCalls) (events : List PendingOutboxEvent) (s : CycleState) :
    Steps (atLoop calls k events s)
      (atEnd k (Throwing.after ((events.forM (Cycle.publishEvent calls)).run s))) := by
  -- an event at a time
  induction events generalizing s with
  | nil => exact .refl
  | cons event rest ih =>
    have first := publishEvent_steps (k := k) rest (Cycle.publishEvent_run calls event s)
    simp only [List.forM, EStateM.run_bind]
    cases ran : (Cycle.publishEvent calls event).run s with
    | error error s' =>
      rw [ran] at first
      exact first
    | ok value s' =>
      rw [ran] at first
      exact first.trans (ih s')

end Loop

/-- A cycle is a run of the publisher, and ends where its program does. -/
theorem publishPending_steps (calls : CycleCalls) (s : CycleState) :
    Steps (atEnd s.activeExecutions s)
      (atEnd (Throwing.after ((Cycle.publishPending calls).run s)).activeExecutions
        (Throwing.after ((Cycle.publishPending calls).run s))) := by
  -- a tick that finds a cycle in progress is no step at all
  by_cases busy : 0 < s.activeExecutions
  · rw [Cycle.publishPending_busy busy]
    exact .refl
  have idle : s.activeExecutions = 0 := by omega
  have begun : Step (atEnd s.activeExecutions s) ⟨s.outboxEvents, ⟨1, .finding⟩, s.sent⟩ := by
    rw [idle]
    exact .started ⟨1, .finding⟩ rfl
  refine .head begun ?_
  cases queried : calls.findPending with
  | some error =>
    rw [Cycle.publishPending_rejects idle (Or.inl queried)]
    simp only [Throwing.after, idle]
    exact steps_await ⟨1, .found .rejected⟩ (fun _ => true) (.failed false) 0 (by
      simp only [settle]
      cases PrismaOutboxRepository.findPending s.outboxEvents batchSize <;> rfl) rfl .refl
  | none =>
    cases found : PrismaOutboxRepository.findPending s.outboxEvents batchSize with
    | error error =>
      rw [Cycle.publishPending_rejects idle (Or.inr ⟨queried, found⟩)]
      simp only [Throwing.after, idle]
      exact steps_await ⟨1, .found .rejected⟩ (fun _ => true) .ok 0 (by simp [settle, found]) rfl
        .refl
    | ok events =>
      -- the loop runs with this execution counted
      have loop := forM_steps (k := 0) calls events { s with activeExecutions := 1 }
      have count := Cycle.forM_activeExecutions calls events { s with activeExecutions := 1 }
      have listed : settle s.outboxEvents ⟨1, .finding⟩ (fun _ => true) .ok =
          some (s.outboxEvents, ⟨1, .found (.resolved events)⟩) := by
        simp [settle, found, CallResult.settle]
      have entered : resume ⟨1, .found (.resolved events)⟩ (claimTime calls events) false 0 =
          some ⟨none, next ⟨1, .idle⟩ (claimTime calls events) events⟩ := by
        simp [resume, next_eq]
      rw [Cycle.publishPending_after idle queried found, Cycle.finished, count]
      exact steps_await _ (fun _ => true) .ok (claimTime calls events) listed entered loop

end LonePublisher

end FlashSaleLab
