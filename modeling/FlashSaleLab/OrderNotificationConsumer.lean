import FlashSaleLab.RedisService

/-!
# `OrderNotificationConsumer.handleMessage`

One execution for each delivery. Its state is the await it is suspended at (`…ing`: the
call has not settled; `…ed`: it has, and the code after the await has not run yet). The
code between two awaits runs to completion and is one `Segment`.
-/
namespace FlashSaleLab

/-- `cleaningUp again` is the `del` in the catch block; `again` tells that the success path
has already run its own `del`. `rejected` is an exception out of `handleMessage`, which
the consume callback logs. -/
inductive HandlerPc where
  | checking
  | checked (reply : Settled (Option String))
  | locking
  | locked (reply : Settled Bool)
  | notifying
  | notified (reply : Settled Unit)
  | marking
  | marked
  | releasing
  | released
  | cleaningUp (again : Bool)
  | cleanedUp
  | confirming (copy : CopyId)
  | confirmed (reply : Settled Unit)
  | returned
  | rejected
  | crashed
  deriving DecidableEq

/-- An execution: the delivery it was started for, the `orderId` property of its message
and where it is. When it was delivered, when its processed check read Redis and when its
lock attempt did are recorded. -/
structure Handler where
  host : InstanceId
  channel : ChannelId
  copy : CopyId
  orderId : Option Json
  pc : HandlerPc
  deliveredAt : Time
  checkedAt : Option Time
  triedAt : Option Time
  deriving DecidableEq

/-- What the synchronous channel calls of a segment do. -/
structure ChannelOps where
  ackThrows : Bool
  nackThrows : Bool
  sendThrows : Bool

/-- What a segment did on its channel, and the await it stopped at. -/
structure Segment where
  sent : Option (Queue × Message)
  settled : Option Settlement
  pc : HandlerPc

namespace OrderNotificationConsumer

def processedKey (orderId : Option Json) : RedisKey := ⟨"processed:order-notification:", orderId⟩

def processingKey (orderId : Option Json) : RedisKey :=
  ⟨"processing:order-notification:", orderId⟩

def maxProcessingRetries : Nat := 3

/-- Up to the first await; nothing here stands inside a `try`. -/
def start (content : Content) : Except String (Option Json) :=
  match content.parse with
  | some data =>
    match data.property "orderId" with
    | .ok orderId =>
      -- both keys are template literals
      if orderId.all Json.interpolates then .ok orderId else .error "TypeError"
    | .error text => .error text
  | none => .error "SyntaxError"

/-- `channel.nack(message, false, true)` inside a `try` with an empty `catch`. -/
def nackAndReturn (ops : ChannelOps) : Segment :=
  ⟨none, if ops.nackThrows then none else some .nackRequeue, .returned⟩

/-- The six publish sites: `sendToQueue`, then `await waitForConfirms()`. -/
def publish (queue : Queue) (message : Message) (fresh : CopyId) (ops : ChannelOps) : Segment :=
  if ops.sendThrows then nackAndReturn ops
  else ⟨some (queue, message), none, .confirming fresh⟩

/-- After `waitForConfirms`: the same code at all six publish sites. -/
def afterConfirm (reply : Settled Unit) (ops : ChannelOps) : Segment :=
  match reply with
  | .resolved _ => if ops.ackThrows then nackAndReturn ops else ⟨none, some .ack, .returned⟩
  | .rejected => nackAndReturn ops

/-- The first catch block: the processed check or the lock attempt threw. -/
def redisFailed (message : Message) (fresh : CopyId) (ops : ChannelOps) : Segment :=
  match message.headers.count "retry-count" with
  -- `Number(…)` stands before the block's own `try`
  | .error _ => ⟨none, none, .rejected⟩
  | .ok retryCount =>
    if retryCount.atLeast 3 then
      publish .dlq
        { message with headers := message.headers.set "retry-count" (.number retryCount) } fresh ops
    else
      publish .retry
        { message with
          headers := message.headers.set "retry-count" (.number retryCount.increment) } fresh ops

/-- The block after `if (!acquired)`. -/
def lockNotAcquired (message : Message) (fresh : CopyId) (ops : ChannelOps) : Segment :=
  match message.headers.count "processing-retry-count" with
  | .error _ => ⟨none, none, .rejected⟩
  | .ok processingRetryCount =>
    if processingRetryCount.atLeast maxProcessingRetries then
      publish .dlq
        { message with
          headers :=
            (message.headers.set "processing-retry-count" (.number processingRetryCount)).set
              "dlq-reason" (.other "processing-lock-exhausted" .nan) } fresh ops
    else
      publish .processingRetry
        { message with
          headers := message.headers.set "processing-retry-count"
            (.number processingRetryCount.increment) } fresh ops

/-- The last catch block, after its `del`. -/
def processingFailed (message : Message) (fresh : CopyId) (ops : ChannelOps) : Segment :=
  -- the same header as in `redisFailed`, with a limit of 1
  match message.headers.count "retry-count" with
  | .error _ => ⟨none, none, .rejected⟩
  | .ok retryCount =>
    if retryCount.atLeast 1 then
      publish .dlq
        { message with headers := message.headers.set "retry-count" (.number retryCount) } fresh ops
    else
      publish .notification
        { message with
          headers := message.headers.set "retry-count" (.number retryCount.increment) } fresh ops

/-- The code after a settled await. A copy it publishes gets the id `fresh`. -/
def resume (message : Message) (fresh : CopyId) (ops : ChannelOps) : HandlerPc → Option Segment
  | .checked (.resolved (some alreadyProcessed)) =>
    -- the empty string is falsy
    if alreadyProcessed = "" then some ⟨none, none, .locking⟩
    -- the ack stands inside the first `try`
    else if ops.ackThrows then some (redisFailed message fresh ops)
    else some ⟨none, some .ack, .returned⟩
  | .checked (.resolved none) => some ⟨none, none, .locking⟩
  | .checked .rejected => some (redisFailed message fresh ops)
  -- the processed key is not read again under the lock
  | .locked (.resolved true) => some ⟨none, none, .notifying⟩
  | .locked (.resolved false) => some (lockNotAcquired message fresh ops)
  | .locked .rejected => some (redisFailed message fresh ops)
  | .notified (.resolved _) => some ⟨none, none, .marking⟩
  | .notified .rejected => some ⟨none, none, .cleaningUp false⟩
  | .marked => some ⟨none, none, .releasing⟩
  | .released =>
    -- the ack stands inside the notification `try`
    if ops.ackThrows then some ⟨none, none, .cleaningUp true⟩
    else some ⟨none, some .ack, .returned⟩
  | .cleanedUp => some (processingFailed message fresh ops)
  | .confirmed reply => some (afterConfirm reply ops)
  | _ => none

/-- The awaited call of execution `id` ends at time `now`. `stored` tells which copies the
broker has stored; only for those can `waitForConfirms` resolve. -/
def settle (redis : Redis) (now : Time) (id : HandlerId) (handler : Handler)
    (stored : CopyId → Bool) (result : CallResult) : Option (Redis × Handler) :=
  match handler.pc with
  | .checking =>
    some (redis, { handler with
      checkedAt := some now
      pc := .checked (RedisService.getStrict redis now (processedKey handler.orderId) result) })
  | .locking =>
    let attempt := RedisService.setIfAbsentStrict redis now (processingKey handler.orderId)
      ⟨"true", id⟩ 30 result
    some (attempt.1, { handler with triedAt := some now, pc := .locked attempt.2 })
  -- the timer stands for an external API call, which may fail
  | .notifying => some (redis, { handler with pc := .notified (result.settle ()) })
  | .marking =>
    some (RedisService.set redis now (processedKey handler.orderId) ⟨"true", id⟩ 86400 result,
      { handler with pc := .marked })
  -- the `del` does not ask whose entry it removes
  | .releasing =>
    some (RedisService.del redis (processingKey handler.orderId) result,
      { handler with pc := .released })
  | .cleaningUp _ =>
    some (RedisService.del redis (processingKey handler.orderId) result,
      { handler with pc := .cleanedUp })
  | .confirming copy =>
    match result with
    | .ok => if stored copy then some (redis, { handler with pc := .confirmed (.resolved ()) })
      else none
    | .failed _ => some (redis, { handler with pc := .confirmed .rejected })
  | _ => none

end OrderNotificationConsumer

end FlashSaleLab
