import FlashSaleLab.OrderService

/-!
# RabbitMQ: queues, copies and channels

Every publish makes a new copy. A copy is on the wire until the broker stores it, then
ready in a queue, then delivered and unacked on a channel, and gone once an ack arrives.
An ack or nack is itself a message to the broker: when the channel is lost first, the
copy goes back to its queue. Who published a copy, from which delivery and when is
recorded with it; the broker does not use these.
-/
namespace FlashSaleLab

abbrev CopyId : Type := Nat
abbrev HandlerId : Type := Nat
abbrev ChannelId : Type := Nat

/-- The queues `connect` asserts, all durable. -/
inductive Queue where
  /-- `order.notification` -/
  | notification
  /-- `order.notification.retry` -/
  | retry
  /-- `order.notification.processing-retry` -/
  | processingRetry
  /-- `order.notification.dlq` -/
  | dlq
  deriving DecidableEq

namespace Queue

/-- `x-message-ttl`; a message whose time is up is dead-lettered to `order.notification`. -/
def messageTtl : Queue → Option Time
  | .retry => some 5000
  | .processingRetry => some 35000
  | _ => none

end Queue

structure Message where
  content : Content
  headers : Headers

inductive Settlement where
  | ack
  | nackRequeue
  deriving DecidableEq

inductive Place where
  | wire
  | ready (queue : Queue) (since : Time)
  | unacked (handler : HandlerId) (channel : ChannelId) (settlement : Option Settlement)
  | gone
  deriving DecidableEq

/-- `source` is the delivery whose handler published the copy: the handler and the copy it
was given. A message from `publishOrderNotification` has none. -/
structure Copy where
  message : Message
  queue : Queue
  channel : ChannelId
  source : Option (HandlerId × CopyId)
  publishedAt : Time
  place : Place

inductive ChannelStatus where
  | opened
  /-- the broker has given the channel up, the client has not noticed -/
  | lost
  | closed
  deriving DecidableEq

structure Channel where
  host : InstanceId
  status : ChannelStatus
  deriving DecidableEq

namespace Place

/-- The broker has stored the copy, now or earlier. -/
def stored : Place → Bool
  | .wire => false
  | _ => true

/-- A settlement takes effect only on the delivery the broker still has outstanding. -/
def settle (handler : HandlerId) (channel : ChannelId) (settlement : Settlement) :
    Place → Place
  | .unacked h c none =>
    -- after a redelivery the tag of the old delivery means nothing any more
    if h = handler ∧ c = channel then .unacked h c (some settlement) else .unacked h c none
  | place => place

/-- Where a copy is after the broker lost its channel `channel`. -/
def dropChannel (now : Time) (lost : ChannelId → Bool) : Place → Place
  | .unacked handler channel settlement =>
    -- a settlement still on its way is lost with the channel
    if lost channel then .ready .notification now else .unacked handler channel settlement
  | place => place

end Place

/-- The broker's copies; a copy's id is its position. -/
abbrev Copies : Type := List Copy

namespace Copies

def publish (copies : Copies) (message : Message) (queue : Queue) (channel : ChannelId)
    (source : Option (HandlerId × CopyId)) (now : Time) : Copies :=
  copies ++ [⟨message, queue, channel, source, now, .wire⟩]

/-- Change where one copy is. -/
def move (copies : Copies) (id : CopyId) (place : Place) : Copies :=
  copies.modify id fun copy => { copy with place }

/-- The broker stores a published copy: the publish is confirmed from now on. -/
def store (copies : Copies) (channels : List Channel) (id : CopyId) (now : Time) :
    Option Copies :=
  match copies[id]? with
  | some copy =>
    -- what a lost channel had sent may never arrive
    if copy.place = .wire ∧ (channels[copy.channel]?).map (·.status) = some .opened then
      some (copies.move id (.ready copy.queue now))
    else none
  | none => none

/-- A message whose TTL has passed moves to `order.notification`. -/
def deadLetter (copies : Copies) (id : CopyId) (now : Time) : Option Copies :=
  match copies[id]? with
  | some copy =>
    match copy.place with
    | .ready queue since =>
      match queue.messageTtl with
      | some ttl =>
        -- not before the TTL ends, and possibly later
        if since + ttl ≤ now then some (copies.move id (.ready .notification now)) else none
      | none => none
    | _ => none
  | none => none

/-- Consumers are registered on `order.notification` only. -/
def deliver (copies : Copies) (channels : List Channel) (id : CopyId) (handler : HandlerId)
    (channel : ChannelId) : Option Copies :=
  match copies[id]? with
  | some copy =>
    match copy.place with
    | .ready .notification _ =>
      if (channels[channel]?).map (·.status) = some .opened then
        some (copies.move id (.unacked handler channel none))
      else none
    | _ => none
  | none => none

/-- `channel.ack(message)` or `channel.nack(message, false, true)`. -/
def settle (copies : Copies) (id : CopyId) (handler : HandlerId) (channel : ChannelId)
    (settlement : Settlement) : Copies :=
  copies.modify id fun copy =>
    { copy with place := copy.place.settle handler channel settlement }

/-- The broker receives the settlement. -/
def receiveSettlement (copies : Copies) (id : CopyId) (now : Time) : Option Copies :=
  match copies[id]? with
  | some copy =>
    match copy.place with
    | .unacked _ _ (some .ack) => some (copies.move id .gone)
    | .unacked _ _ (some .nackRequeue) => some (copies.move id (.ready .notification now))
    | _ => none
  | none => none

/-- The broker gives up channels: their outstanding deliveries go back to the queue. -/
def dropChannels (copies : Copies) (now : Time) (lost : ChannelId → Bool) : Copies :=
  copies.map fun copy => { copy with place := copy.place.dropChannel now lost }

end Copies

namespace RabbitMqService

/-- The body `publishOrderNotification` sends. -/
def body (orderId : Rat) (requestId : String) : Content :=
  .stringify (.object [("orderId", .number orderId), ("requestId", .string requestId)])

def message (orderId : Rat) (requestId : String) : Message := ⟨body orderId requestId, .empty⟩

end RabbitMqService

end FlashSaleLab
