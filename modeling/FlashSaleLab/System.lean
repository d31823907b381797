import FlashSaleLab.Foundations.Transition
import FlashSaleLab.OrderNotificationConsumer
import FlashSaleLab.OutboxPublisher

/-!
# The whole system

Any number of API instances over one PostgreSQL, one Redis and one RabbitMQ, with one
clock. An action names the party that moves and every choice of the environment, so the
interleaving, the failures, the crashes and the passing of time are all in the list of
actions of a run.
-/
namespace FlashSaleLab

/-- What an observer notes down; no modelled code reads it. `claimed` is a claim that
returned true, `claimLost` one that took effect while its reply was lost. -/
inductive Event where
  | claimed (event : Nat) (startedAt : Time)
  | claimLost (event : Nat) (startedAt : Time)
  | published (event : Nat)
  | markedSent (event : Nat) (time : Time)
  | recovered (event : Nat)
  | lockStored (orderId : Option Json) (handler : HandlerId) (time : Time)
  | notified (orderId : Option Json) (handler : HandlerId) (time : Time)
  | processedStored (orderId : Option Json) (handler : HandlerId) (time : Time)
  deriving DecidableEq

/-- The event a history entry is about, for the entries that are about the outbox. -/
def Event.outboxId? : Event → Option Nat
  | .claimed event _ => some event
  | .claimLost event _ => some event
  | .published event => some event
  | .markedSent event _ => some event
  | .recovered event => some event
  | _ => none

/-- `moment` counts the steps of the run; `history` has the newest event first. -/
structure State where
  now : Time
  moment : Nat
  db : Database
  calls : List CreateCall
  publishers : InstanceId → Publisher
  copies : Copies
  channels : List Channel
  redis : Redis
  handlers : List Handler
  history : List Event

/-- The inventory table is seeded; everything else starts empty. -/
def State.initial (stock : Int → Option Nat) : State where
  now := 0
  moment := 0
  db :=
    { inventory := fun productId => (stock productId).map fun n => (n : Int)
      lockedBy := fun _ => none
      orders := []
      outboxEvents := []
      nextOrderId := 1
      nextOutboxId := 1 }
  calls := []
  publishers := fun _ => OutboxPublisherService.initial
  copies := []
  channels := []
  redis := ExpiringStore.empty
  handlers := []
  history := []

inductive Action where
  | tick (elapsed : Time)
  /-- `OrderService.create` is called with a body `CreateOrderDto` accepts. -/
  | create (host : InstanceId) (input : CreateOrderInput) (requestId : String)
      (traceContext : List (String × Json))
  | query (call : CallId) (ok : Bool)
  | publishPending (host : InstanceId)
  | publisherSettles (host : InstanceId) (result : CallResult)
  /-- `channel` is what `this.channel` of the instance's `RabbitMqService` holds. -/
  | publisherResumes (host : InstanceId) (channel : Option ChannelId) (sendThrows : Bool)
  /-- The `UPDATE` of a `recoverStuckProcessing` that was called at `calledAt`. -/
  | recoverStuckProcessing (calledAt : Time)
  | openChannel (host : InstanceId)
  | loseChannel (channel : ChannelId)
  | noticeClose (channel : ChannelId)
  | store (copy : CopyId)
  | deadLetter (copy : CopyId)
  | deliver (copy : CopyId) (channel : ChannelId)
  | receiveSettlement (copy : CopyId)
  | handlerSettles (handler : HandlerId) (result : CallResult)
  | handlerResumes (handler : HandlerId) (sendThrows : Bool)
  | crash (host : InstanceId)

namespace State

def stored (s : State) (id : CopyId) : Bool :=
  match s.copies[id]? with
  | some copy => copy.place.stored
  | none => false

def channelStatus (s : State) (id : ChannelId) : Option ChannelStatus :=
  (s.channels[id]?).map (·.status)

/-- A synchronous call throws on a channel the client knows to be closed; on a lost one it
writes to a dead socket. -/
def channelOps (s : State) (id : ChannelId) (sendThrows : Bool) : ChannelOps :=
  let closed := decide (s.channelStatus id = some .closed)
  ⟨closed, closed, closed || sendThrows⟩

/-- The instance's `this.channel` is missing, or its `sendToQueue` throws. -/
def unavailable (s : State) (host : InstanceId) (channel : Option ChannelId)
    (sendThrows : Bool) : Bool :=
  match channel.bind fun id => s.channels[id]? with
  | none => true
  | some channel => channel.host ≠ host || channel.status = .closed || sendThrows

/-- The transactions of a crashed instance. -/
def callOf (s : State) (host : InstanceId) (id : CallId) : Bool :=
  match s.calls[id]? with
  | some call => decide (call.host = host)
  | none => false

def channelOf (s : State) (host : InstanceId) (id : ChannelId) : Bool :=
  match s.channels[id]? with
  | some channel => decide (channel.host = host)
  | none => false

end State

def CreatePc.abort (moment : Nat) : CreatePc → CreatePc
  | .finished outcome at_ => .finished outcome at_
  | _ => .finished .failed moment

def HandlerPc.crash : HandlerPc → HandlerPc
  | .returned => .returned
  | .rejected => .rejected
  | _ => .crashed

/-- What the end of a handler's awaited call shows an observer. -/
def handlerEvents (redis : Redis) (now : Time) (id : HandlerId) (handler : Handler)
    (result : CallResult) : List Event :=
  match handler.pc with
  | .locking =>
    if result.applied ∧
        redis.live now (OrderNotificationConsumer.processingKey handler.orderId) = none then
      [.lockStored handler.orderId id now]
    else []
  | .notifying => if result = .ok then [.notified handler.orderId id now] else []
  | .marking => if result.applied then [.processedStored handler.orderId id now] else []
  | _ => []

def publisherEvents (events : List OutboxEvent) (now : Time) (publisher : Publisher)
    (result : CallResult) : List Event :=
  match publisher.pc with
  | .claiming event _ startedAt =>
    if (PrismaOutboxRepository.claim events event.id startedAt).2 then
      -- a claim whose reply is lost keeps the row, though nobody acts on it
      match result with
      | .ok => [.claimed event.id startedAt]
      | .failed true => [.claimLost event.id startedAt]
      | .failed false => []
    else []
  | .marking event _ sentAt =>
    if (PrismaOutboxRepository.markAsSent events event.id sentAt).isSome ∧ result.applied then
      [.markedSent event.id now]
    else []
  | _ => []

/-- The event a publisher's segment published. -/
def PublisherPc.published? : PublisherPc → List Event
  | .publishing event _ _ => [.published event.id]
  | _ => []

namespace State

/-- `CreateOrderDto` has refused a quantity below 1. -/
def beginCreate (s : State) (host : InstanceId) (input : CreateOrderInput) (requestId : String)
    (traceContext : List (String × Json)) : Option State :=
  if 1 ≤ input.quantity then
    some { s with
      calls := s.calls ++ [⟨host, input, requestId, traceContext, s.moment, .prechecking⟩] }
  else none

def query (s : State) (id : CallId) (ok : Bool) : Option State :=
  match s.calls[id]? with
  | some call =>
    match OrderService.create s.db id call ok s.moment with
    | some (db, pc) => some { s with db, calls := s.calls.set id { call with pc } }
    | none => none
  | none => none

def publishPending (s : State) (host : InstanceId) : Option State :=
  match OutboxPublisherService.publishPending (s.publishers host) with
  | some publisher => some { s with publishers := Function.update s.publishers host publisher }
  | none => some s

def publisherSettles (s : State) (host : InstanceId) (result : CallResult) : Option State :=
  match OutboxPublisherService.settle s.db.outboxEvents (s.publishers host) s.stored result with
  | some (outboxEvents, publisher) =>
    some { s with
      db := { s.db with outboxEvents }
      publishers := Function.update s.publishers host publisher
      history :=
        publisherEvents s.db.outboxEvents s.now (s.publishers host) result ++ s.history }
  | none => none

def publisherResumes (s : State) (host : InstanceId) (channel : Option ChannelId)
    (sendThrows : Bool) : Option State :=
  match OutboxPublisherService.resume (s.publishers host) s.now
      (s.unavailable host channel sendThrows) s.copies.length with
  | some segment =>
    match segment.sent, channel with
    | some message, some id =>
      some { s with
        publishers := Function.update s.publishers host segment.publisher
        copies := s.copies.publish message .notification id none s.now
        history := segment.publisher.pc.published? ++ s.history }
    | _, _ =>
      some { s with publishers := Function.update s.publishers host segment.publisher }
  | none => none

def recoverStuckProcessing (s : State) (calledAt : Time) : Option State :=
  -- the timeout is computed before the `UPDATE` runs
  if calledAt ≤ s.now then
    some { s with
      db := { s.db with
        outboxEvents :=
          (PrismaOutboxRepository.recoverStuckProcessing s.db.outboxEvents calledAt).1 }
      history :=
        (s.db.outboxEvents.filter (PrismaOutboxRepository.stuck calledAt)).map
          (fun event => .recovered event.id) ++ s.history }
  else none

def loseChannel (s : State) (id : ChannelId) : Option State :=
  if s.channelStatus id = some .opened then
    some { s with
      channels := s.channels.modify id fun channel => { channel with status := .lost }
      copies := s.copies.dropChannels s.now (· = id) }
  else none

def noticeClose (s : State) (id : ChannelId) : Option State :=
  if s.channelStatus id = some .lost then
    some { s with
      channels := s.channels.modify id fun channel => { channel with status := .closed } }
  else none

def deliver (s : State) (id : CopyId) (channel : ChannelId) : Option State :=
  match s.copies[id]?, s.channels[channel]?,
      s.copies.deliver s.channels id s.handlers.length channel with
  | some copy, some consumer, some copies =>
    -- a body that is no JSON throws out of `handleMessage`; the delivery stays unacked
    let (orderId, pc) := match OrderNotificationConsumer.start copy.message.content with
      | .ok orderId => (orderId, HandlerPc.checking)
      | .error _ => (none, HandlerPc.rejected)
    some { s with
      copies
      handlers := s.handlers ++
        [⟨consumer.host, channel, id, orderId, pc, s.now, none, none⟩] }
  | _, _, _ => none

def handlerSettles (s : State) (id : HandlerId) (result : CallResult) : Option State :=
  match s.handlers[id]? with
  | some handler =>
    match OrderNotificationConsumer.settle s.redis s.now id handler s.stored result with
    | some (redis, settled) =>
      some { s with
        redis
        handlers := s.handlers.set id settled
        history := handlerEvents s.redis s.now id handler result ++ s.history }
    | none => none
  | none => none

/-- The channel calls of a segment reach the broker in their order. -/
def runSegment (s : State) (id : HandlerId) (handler : Handler) (segment : Segment) : Copies :=
  let copies := match segment.sent with
    | some (queue, message) =>
      s.copies.publish message queue handler.channel (some (id, handler.copy)) s.now
    | none => s.copies
  match segment.settled with
  | some settlement => copies.settle handler.copy id handler.channel settlement
  | none => copies

def handlerResumes (s : State) (id : HandlerId) (sendThrows : Bool) : Option State :=
  match s.handlers[id]? with
  | some handler =>
    match s.copies[handler.copy]? with
    | some copy =>
      match OrderNotificationConsumer.resume copy.message s.copies.length
          (s.channelOps handler.channel sendThrows) handler.pc with
      | some segment =>
        some { s with
          copies := s.runSegment id handler segment
          handlers := s.handlers.set id { handler with pc := segment.pc } }
      | none => none
    | none => none
  | none => none

/-- An instance dies: its transactions roll back, its connections go. -/
def crash (s : State) (host : InstanceId) : State :=
  { s with
    db := { s.db with lockedBy := fun productId =>
      (s.db.lockedBy productId).filter fun id => !s.callOf host id }
    calls := s.calls.map fun call =>
      if call.host = host then { call with pc := call.pc.abort s.moment } else call
    -- the instance may start again, with a fresh publisher and new channels
    publishers := Function.update s.publishers host OutboxPublisherService.initial
    copies := s.copies.dropChannels s.now (s.channelOf host)
    channels := s.channels.map fun channel =>
      if channel.host = host then { channel with status := .closed } else channel
    handlers := s.handlers.map fun handler =>
      if handler.host = host then { handler with pc := handler.pc.crash } else handler }

/-- Replace the copies, when the broker's move is possible. -/
def withCopies (s : State) (copies : Option Copies) : Option State :=
  copies.map fun copies => { s with copies }

def act (s : State) : Action → Option State
  | .tick elapsed => some { s with now := s.now + elapsed }
  | .create host input requestId traceContext => s.beginCreate host input requestId traceContext
  | .query call ok => s.query call ok
  | .publishPending host => s.publishPending host
  | .publisherSettles host result => s.publisherSettles host result
  | .publisherResumes host channel sendThrows => s.publisherResumes host channel sendThrows
  | .recoverStuckProcessing calledAt => s.recoverStuckProcessing calledAt
  | .openChannel host => some { s with channels := s.channels ++ [⟨host, .opened⟩] }
  | .loseChannel channel => s.loseChannel channel
  | .noticeClose channel => s.noticeClose channel
  | .store copy => s.withCopies (s.copies.store s.channels copy s.now)
  | .deadLetter copy => s.withCopies (s.copies.deadLetter copy s.now)
  | .deliver copy channel => s.deliver copy channel
  | .receiveSettlement copy => s.withCopies (s.copies.receiveSettlement copy s.now)
  | .handlerSettles handler result => s.handlerSettles handler result
  | .handlerResumes handler sendThrows => s.handlerResumes handler sendThrows
  | .crash host => some (s.crash host)

def step (s : State) (a : Action) : Option State :=
  (s.act a).map fun s' => { s' with moment := s.moment + 1 }

end State

/-- All runs from a given inventory. -/
def system (stock : Int → Option Nat) : Transition.System State Action where
  init s := s = State.initial stock
  step := State.step

/-- No condition on the steps of a run. -/
def anyStep (_ : State) (_ : Action) : Prop := True

instance (s : State) (a : Action) : Decidable (anyStep s a) := isTrue trivial

/-- The state after those of the actions that are possible and allowed. -/
def State.after (allowed : State → Action → Prop) [∀ s a, Decidable (allowed s a)]
    (stock : Int → Option Nat) (actions : List Action) : State :=
  (system stock).play (fun s a => decide (allowed s a)) (.initial stock) actions

theorem State.after_reachable (allowed : State → Action → Prop) [∀ s a, Decidable (allowed s a)]
    (stock : Int → Option Nat) (actions : List Action) :
    (system stock).Reachable allowed (.after allowed stock actions) :=
  Transition.System.play_reachable _ (fun _ _ => of_decide_eq_true) (.init rfl) actions

/-- An order is sold and its notification published: copy 0 waits in `order.notification`. -/
def publishedOrder : List Action :=
  [.create 0 ⟨1, 7, 1⟩ "a" [], .query 0 true, .query 0 true, .query 0 true, .query 0 true,
    .query 0 true, .openChannel 0, .openChannel 1, .publishPending 0, .publisherSettles 0 .ok,
    .publisherResumes 0 (some 0) false, .publisherSettles 0 .ok,
    .publisherResumes 0 (some 0) false, .store 0]

end FlashSaleLab
