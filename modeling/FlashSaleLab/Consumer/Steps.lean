import FlashSaleLab.Foundations.Registry
import FlashSaleLab.Steps

/-!
# What a step does to the consumer

`Settles` and `Continues` list what one execution of `handleMessage` can do at the end of an
await and in the segment after it; `Republishes` lists the six publish sites. `ConsumerStep`
is everything a step of the system can do to the executions and to Redis.
-/
namespace FlashSaleLab

namespace OrderNotificationConsumer

/-- The await failed or answered in a way that leads to the first catch block. The non-empty
reply is the one whose `channel.ack` threw. -/
inductive RedisFails : HandlerPc → Prop
  | check : RedisFails (.checked .rejected)
  | ack (text : String) (nonempty : text ≠ "") : RedisFails (.checked (.resolved (some text)))
  | lock : RedisFails (.locked .rejected)

/-- The await ended in a way that leads to a publish site, through the conversion of a counter. -/
inductive ReadsCounter : HandlerPc → Prop
  | redisFailed (pc : HandlerPc) (failed : RedisFails pc) : ReadsCounter pc
  | lockNotAcquired : ReadsCounter (.locked (.resolved false))
  | processingFailed : ReadsCounter .cleanedUp

/-- The queue and the message of a publish site. -/
inductive Republishes (message : Message) : HandlerPc → Queue → Message → Prop
  | redisExhausted (pc : HandlerPc) (failed : RedisFails pc) (retryCount : JsNumber)
      (count : message.headers.count "retry-count" = .ok retryCount)
      (limit : retryCount.atLeast 3 = true) :
      Republishes message pc .dlq
        { message with headers := message.headers.set "retry-count" (.number retryCount) }
  | redisRetry (pc : HandlerPc) (failed : RedisFails pc) (retryCount : JsNumber)
      (count : message.headers.count "retry-count" = .ok retryCount)
      (below : retryCount.atLeast 3 = false) :
      Republishes message pc .retry
        { message with headers := message.headers.set "retry-count" (.number retryCount.increment) }
  | lockExhausted (processingRetryCount : JsNumber)
      (count : message.headers.count "processing-retry-count" = .ok processingRetryCount)
      (limit : processingRetryCount.atLeast maxProcessingRetries = true) :
      Republishes message (.locked (.resolved false)) .dlq
        { message with
          headers :=
            (message.headers.set "processing-retry-count" (.number processingRetryCount)).set
              "dlq-reason" (.other "processing-lock-exhausted" .nan) }
  | lockRetry (processingRetryCount : JsNumber)
      (count : message.headers.count "processing-retry-count" = .ok processingRetryCount)
      (below : processingRetryCount.atLeast maxProcessingRetries = false) :
      Republishes message (.locked (.resolved false)) .processingRetry
        { message with
          headers := message.headers.set "processing-retry-count"
            (.number processingRetryCount.increment) }
  | processingExhausted (retryCount : JsNumber)
      (count : message.headers.count "retry-count" = .ok retryCount)
      (limit : retryCount.atLeast 1 = true) :
      Republishes message .cleanedUp .dlq
        { message with headers := message.headers.set "retry-count" (.number retryCount) }
  | processingRetry (retryCount : JsNumber)
      (count : message.headers.count "retry-count" = .ok retryCount)
      (below : retryCount.atLeast 1 = false) :
      Republishes message .cleanedUp .notification
        { message with headers := message.headers.set "retry-count" (.number retryCount.increment) }

/-- The segment after a settled await. -/
inductive Continues (message : Message) (fresh : CopyId) (ops : ChannelOps) :
    HandlerPc → Segment → Prop
  | unprocessed (reply : Option String) (absent : reply = none ∨ reply = some "") :
      Continues message fresh ops (.checked (.resolved reply)) ⟨none, none, .locking⟩
  | duplicate (text : String) (nonempty : text ≠ "") :
      Continues message fresh ops (.checked (.resolved (some text)))
        ⟨none, some .ack, .returned⟩
  | acquired : Continues message fresh ops (.locked (.resolved true)) ⟨none, none, .notifying⟩
  | notified : Continues message fresh ops (.notified (.resolved ())) ⟨none, none, .marking⟩
  | notificationFailed :
      Continues message fresh ops (.notified .rejected) ⟨none, none, .cleaningUp false⟩
  | marked : Continues message fresh ops .marked ⟨none, none, .releasing⟩
  | completed (acked : ops.ackThrows = false) :
      Continues message fresh ops .released ⟨none, some .ack, .returned⟩
  | ackThrew (threw : ops.ackThrows = true) :
      Continues message fresh ops .released ⟨none, none, .cleaningUp true⟩
  | counterThrew (pc : HandlerPc) (reading : ReadsCounter pc) :
      Continues message fresh ops pc ⟨none, none, .rejected⟩
  | republished (pc : HandlerPc) (queue : Queue) (message' : Message)
      (site : Republishes message pc queue message') :
      Continues message fresh ops pc ⟨some (queue, message'), none, .confirming fresh⟩
  | sendFailed (pc : HandlerPc) (queue : Queue) (message' : Message)
      (site : Republishes message pc queue message') (settled : Option Settlement)
      (unacked : settled ≠ some .ack) :
      Continues message fresh ops pc ⟨none, settled, .returned⟩
  | confirmed :
      Continues message fresh ops (.confirmed (.resolved ())) ⟨none, some .ack, .returned⟩
  | unconfirmed (reply : Settled Unit) (settled : Option Settlement)
      (unacked : settled ≠ some .ack) :
      Continues message fresh ops (.confirmed reply) ⟨none, settled, .returned⟩

section Segments

variable {message : Message} {fresh : CopyId} {ops : ChannelOps}

theorem nackAndReturn_unacked (ops : ChannelOps) : ∃ settled, settled ≠ some .ack ∧
    nackAndReturn ops = ⟨none, settled, .returned⟩ := by
  refine ⟨_, ?_, rfl⟩
  split <;> simp

/-- No publish site touches the body. -/
theorem Republishes.content {pc : HandlerPc} {queue : Queue} {message' : Message}
    (site : Republishes message pc queue message') : message'.content = message.content := by
  cases site <;> rfl

/-- All publish sites fail and succeed alike. -/
theorem publish_continues {pc : HandlerPc} {queue : Queue} {message' : Message}
    (site : Republishes message pc queue message') :
    Continues message fresh ops pc (publish queue message' fresh ops) := by
  unfold publish
  split
  · -- `sendToQueue` threw: nack, if the channel still takes one
    obtain ⟨settled, unacked, same⟩ := nackAndReturn_unacked ops
    rw [same]
    exact .sendFailed pc queue message' site settled unacked
  · exact .republished pc queue message' site

theorem redisFailed_continues {pc : HandlerPc} (failed : RedisFails pc) :
    Continues message fresh ops pc (redisFailed message fresh ops) := by
  unfold redisFailed
  split
  · exact .counterThrew pc (.redisFailed pc failed)
  next retryCount count =>
    split
    next limit => exact publish_continues (.redisExhausted pc failed retryCount count limit)
    next below =>
      exact publish_continues (.redisRetry pc failed retryCount count (by simpa using below))

theorem lockNotAcquired_continues :
    Continues message fresh ops (.locked (.resolved false))
      (lockNotAcquired message fresh ops) := by
  unfold lockNotAcquired
  split
  · exact .counterThrew _ .lockNotAcquired
  next processingRetryCount count =>
    split
    next limit => exact publish_continues (.lockExhausted processingRetryCount count limit)
    next below =>
      exact publish_continues (.lockRetry processingRetryCount count (by simpa using below))

theorem processingFailed_continues :
    Continues message fresh ops .cleanedUp (processingFailed message fresh ops) := by
  unfold processingFailed
  split
  · exact .counterThrew _ .processingFailed
  next retryCount count =>
    split
    next limit => exact publish_continues (.processingExhausted retryCount count limit)
    next below => exact publish_continues (.processingRetry retryCount count (by simpa using below))

theorem afterConfirm_continues (reply : Settled Unit) :
    Continues message fresh ops (.confirmed reply) (afterConfirm reply ops) := by
  obtain ⟨settled, unacked, same⟩ := nackAndReturn_unacked ops
  unfold afterConfirm
  rw [same]
  cases reply with
  | resolved value =>
    simp only
    split
    · -- confirmed, but the ack threw: the message stays with both copies
      exact .unconfirmed _ settled unacked
    · exact .confirmed
  | rejected => exact .unconfirmed _ settled unacked

theorem resume_cases {pc : HandlerPc} {segment : Segment}
    (resumed : resume message fresh ops pc = some segment) :
    Continues message fresh ops pc segment := by
  unfold resume at resumed
  -- one goal for each settled await, in the order of `resume`
  split at resumed
  next alreadyProcessed =>
    split at resumed
    next empty =>
      cases resumed
      exact .unprocessed _ (Or.inr (congrArg some empty))
    next nonempty =>
      split at resumed
      · -- the duplicate's ack threw inside the first `try`
        cases resumed
        exact redisFailed_continues (.ack alreadyProcessed nonempty)
      · cases resumed
        exact .duplicate alreadyProcessed nonempty
  · cases resumed
    exact .unprocessed none (Or.inl rfl)
  · cases resumed
    exact redisFailed_continues .check
  · cases resumed
    exact .acquired
  · cases resumed
    exact lockNotAcquired_continues
  · cases resumed
    exact redisFailed_continues .lock
  · cases resumed
    exact .notified
  · cases resumed
    exact .notificationFailed
  · cases resumed
    exact .marked
  · split at resumed
    next threw =>
      cases resumed
      exact .ackThrew threw
    next acked =>
      cases resumed
      exact .completed (by simpa using acked)
  · cases resumed
    exact processingFailed_continues
  next reply =>
    cases resumed
    exact afterConfirm_continues reply
  · cases resumed

end Segments

/-- The await after a `del` that has ended. -/
def afterDel : HandlerPc → Option HandlerPc
  | .releasing => some .released
  | .cleaningUp _ => some .cleanedUp
  | _ => none

/-- The `del` on the success path, and the one in the catch block. -/
theorem afterDel_cases {pc pc' : HandlerPc} (ended : afterDel pc = some pc') :
    (pc = .releasing ∧ pc' = .released) ∨ (∃ again, pc = .cleaningUp again ∧ pc' = .cleanedUp) := by
  cases pc with
  | releasing => exact Or.inl ⟨rfl, (Option.some.inj ended).symm⟩
  | cleaningUp again => exact Or.inr ⟨again, rfl, (Option.some.inj ended).symm⟩
  | _ => cases ended

section Awaits

variable (redis : Redis) (now : Time) (id : HandlerId) (handler : Handler)
  (stored : CopyId → Bool) (result : CallResult)

/-- The end of an awaited call: what became of Redis and of the execution, and what was noted
down. A failed call may have taken effect. -/
inductive Settles : Redis → Handler → List Event → Prop
  | checked (suspended : handler.pc = .checking) (answered : result = .ok) :
      Settles redis
        { handler with
          checkedAt := some now
          pc := .checked
            (.resolved ((redis.get now (processedKey handler.orderId)).map (·.text))) } []
  | checkFailed (suspended : handler.pc = .checking) (failed : result ≠ .ok) :
      Settles redis { handler with checkedAt := some now, pc := .checked .rejected } []
  | lockTaken (reply : Settled Bool) (suspended : handler.pc = .locking)
      (free : redis.live now (processingKey handler.orderId) = none)
      (told : reply = .resolved true ∨ (reply = .rejected ∧ result ≠ .ok)) :
      Settles
        (ExpiringStore.set redis now (processingKey handler.orderId) ⟨"true", id⟩ 30000)
        { handler with triedAt := some now, pc := .locked reply }
        [.lockStored handler.orderId id now]
  | lockRefused (entry : Expiring RedisValue) (suspended : handler.pc = .locking)
      (taken : redis.live now (processingKey handler.orderId) = some entry)
      (answered : result = .ok) :
      Settles redis { handler with triedAt := some now, pc := .locked (.resolved false) } []
  | lockFailed (suspended : handler.pc = .locking) (failed : result ≠ .ok) :
      Settles redis { handler with triedAt := some now, pc := .locked .rejected } []
  | notified (suspended : handler.pc = .notifying) (answered : result = .ok) :
      Settles redis { handler with pc := .notified (.resolved ()) }
        [.notified handler.orderId id now]
  | notificationFailed (suspended : handler.pc = .notifying) (failed : result ≠ .ok) :
      Settles redis { handler with pc := .notified .rejected } []
  | markStored (suspended : handler.pc = .marking) :
      Settles
        (ExpiringStore.set redis now (processedKey handler.orderId) ⟨"true", id⟩ 86400000)
        { handler with pc := .marked } [.processedStored handler.orderId id now]
  | markLost (suspended : handler.pc = .marking) (lost : result.applied = false) :
      Settles redis { handler with pc := .marked } []
  | deleted (pc : HandlerPc) (suspended : afterDel handler.pc = some pc) :
      Settles (ExpiringStore.del redis (processingKey handler.orderId)) { handler with pc } []
  | deleteLost (pc : HandlerPc) (suspended : afterDel handler.pc = some pc)
      (failed : result ≠ .ok) : Settles redis { handler with pc } []
  | confirmed (copy : CopyId) (suspended : handler.pc = .confirming copy)
      (present : stored copy = true) :
      Settles redis { handler with pc := .confirmed (.resolved ()) } []
  | unconfirmed (copy : CopyId) (suspended : handler.pc = .confirming copy) :
      Settles redis { handler with pc := .confirmed .rejected } []

end Awaits

theorem CallResult.not_ok_of_lost {result : CallResult} (lost : result.applied = false) :
    result ≠ .ok := by
  rintro rfl
  cases lost

section Awaits

variable {redis redis' : Redis} {now : Time} {id : HandlerId} {handler after : Handler}
  {stored : CopyId → Bool} {result : CallResult}

theorem settle_locking (suspended : handler.pc = .locking) :
    Settles redis now id handler stored result
      (RedisService.setIfAbsentStrict redis now (processingKey handler.orderId) ⟨"true", id⟩ 30
        result).1
      { handler with
        triedAt := some now
        pc := .locked (RedisService.setIfAbsentStrict redis now (processingKey handler.orderId)
          ⟨"true", id⟩ 30 result).2 }
      (handlerEvents redis now id handler result) := by
  simp only [RedisService.setIfAbsentStrict, handlerEvents, suspended]
  rcases ExpiringStore.setIfAbsent_cases redis now (processingKey handler.orderId) ⟨"true", id⟩
    (30 * 1000) with ⟨entry, taken, unchanged⟩ | ⟨free, written⟩
  · -- `NX` met a live entry: executed or not, nothing changed
    rw [unchanged, ite_self, if_neg (by simp [taken])]
    cases result with
    | ok => exact .lockRefused entry suspended taken rfl
    | failed applied => exact .lockFailed suspended (by simp)
  · rw [written]
    cases result with
    | ok =>
      simp only [CallResult.applied, free, and_self, if_true, CallResult.settle]
      exact .lockTaken (.resolved true) suspended free (Or.inl rfl)
    | failed applied =>
      cases applied with
      | true =>
        -- the key is stored and the caller sees an error
        simp only [CallResult.applied, free, and_self, if_true, CallResult.settle]
        exact .lockTaken .rejected suspended free (Or.inr ⟨rfl, by simp⟩)
      | false =>
        simp only [CallResult.applied, Bool.false_eq_true, false_and, if_false, CallResult.settle]
        exact .lockFailed suspended (by simp)

theorem settle_del {pc : HandlerPc} (suspended : afterDel handler.pc = some pc) :
    Settles redis now id handler stored result
      (RedisService.del redis (processingKey handler.orderId) result) { handler with pc } [] := by
  unfold RedisService.del
  cases applied : result.applied with
  | true => exact .deleted pc suspended
  | false => exact .deleteLost pc suspended (CallResult.not_ok_of_lost applied)

theorem settle_cases (settled : settle redis now id handler stored result = some (redis', after)) :
    Settles redis now id handler stored result redis' after
      (handlerEvents redis now id handler result) := by
  unfold settle at settled
  split at settled
  next suspended =>
    cases settled
    simp only [handlerEvents, suspended]
    cases result with
    | ok => exact .checked suspended rfl
    | failed applied => exact .checkFailed suspended (by simp)
  next suspended =>
    cases settled
    exact settle_locking suspended
  next suspended =>
    cases settled
    simp only [handlerEvents, suspended]
    cases result with
    | ok => exact .notified suspended rfl
    | failed applied => exact .notificationFailed suspended (by simp)
  next suspended =>
    cases settled
    simp only [handlerEvents, suspended, RedisService.set]
    cases applied : result.applied with
    | true => exact .markStored suspended
    | false => exact .markLost suspended applied
  next suspended =>
    cases settled
    simp only [handlerEvents, suspended]
    exact settle_del (by rw [suspended]; rfl)
  next again suspended =>
    cases settled
    simp only [handlerEvents, suspended]
    exact settle_del (by rw [suspended]; rfl)
  next copy suspended =>
    cases result with
    | ok =>
      simp only at settled
      split at settled
      next present =>
        cases settled
        simp only [handlerEvents, suspended]
        exact .confirmed copy suspended present
      · cases settled
    | failed applied =>
      cases settled
      simp only [handlerEvents, suspended]
      exact .unconfirmed copy suspended
  · cases settled

end Awaits

end OrderNotificationConsumer

/-- An execution loses its instance. -/
def Handler.crash (host : InstanceId) (handler : Handler) : Handler :=
  if handler.host = host then { handler with pc := handler.pc.crash } else handler

/-- Everything a step of the system can do to the executions and to Redis. -/
inductive ConsumerStep (s : State) (a : Action) (s' : State) : Prop
  | idle (handlers : s'.handlers = s.handlers) (redis : s'.redis = s.redis) (events : List Event)
      (foreign : ∀ event ∈ events, event.outboxId? ≠ none)
      (history : s'.history = events ++ s.history)
  | delivered (handler : Handler) (copy : Copy) (since : Time)
      (held : s.copies[handler.copy]? = some copy)
      (waiting : copy.place = .ready .notification since)
      (fresh : (handler.pc = .checking ∧
        OrderNotificationConsumer.start copy.message.content = .ok handler.orderId) ∨
        handler.pc = .rejected)
      (deliveredAt : handler.deliveredAt = s.now) (unchecked : handler.checkedAt = none)
      (untried : handler.triedAt = none) (now : s'.now = s.now)
      (handlers : s'.handlers = s.handlers ++ [handler])
      (redis : s'.redis = s.redis) (history : s'.history = s.history)
  | settled (id : HandlerId) (handler : Handler) (result : CallResult) (after : Handler)
      (events : List Event) (action : a = .handlerSettles id result)
      (found : s.handlers[id]? = some handler)
      (moved : OrderNotificationConsumer.Settles s.redis s.now id handler s.stored result s'.redis
        after events)
      (now : s'.now = s.now) (handlers : s'.handlers = s.handlers.set id after)
      (history : s'.history = events ++ s.history)
  | resumed (id : HandlerId) (handler : Handler) (sendThrows : Bool) (copy : Copy)
      (segment : Segment) (action : a = .handlerResumes id sendThrows)
      (found : s.handlers[id]? = some handler) (held : s.copies[handler.copy]? = some copy)
      (moved : OrderNotificationConsumer.Continues copy.message s.copies.length
        (s.channelOps handler.channel sendThrows) handler.pc segment)
      (copies : s'.copies = s.runSegment id handler segment) (now : s'.now = s.now)
      (handlers : s'.handlers = s.handlers.set id { handler with pc := segment.pc })
      (redis : s'.redis = s.redis) (history : s'.history = s.history)
  | crashed (host : InstanceId) (action : a = .crash host) (now : s'.now = s.now)
      (handlers : s'.handlers = s.handlers.map (Handler.crash host)) (redis : s'.redis = s.redis)
      (history : s'.history = s.history)

theorem publisherEvents_foreign {rows : List OutboxEvent} {now : Time} {publisher : Publisher}
    {result : CallResult} :
    ∀ event ∈ publisherEvents rows now publisher result, event.outboxId? ≠ none := by
  intro event member
  unfold publisherEvents at member
  split at member
  · split at member
    · split at member <;> simp_all [Event.outboxId?]
    · cases member
  · split at member <;> simp_all [Event.outboxId?]
  · cases member

theorem published?_foreign (pc : PublisherPc) :
    ∀ event ∈ pc.published?, event.outboxId? ≠ none := by
  intro event member
  unfold PublisherPc.published? at member
  split at member <;> simp_all [Event.outboxId?]

theorem consumerStep {s s' : State} {a : Action} (taken : s.step a = some s') :
    ConsumerStep s a s' := by
  obtain ⟨t, acts, rfl⟩ := State.step_cases taken
  cases acts with
  | publisherSettled => exact .idle rfl rfl _ publisherEvents_foreign rfl
  | published host channel sendThrows segment =>
    exact .idle rfl rfl _ (published?_foreign segment.publisher.pc) rfl
  | recovered calledAt past =>
    refine .idle rfl rfl _ (fun event member => ?_) rfl
    obtain ⟨row, _, rfl⟩ := List.mem_map.mp member
    simp [Event.outboxId?]
  | delivered id copy since channel consumer orderId held waiting registered usable parsed =>
    exact .delivered _ copy since held waiting (Or.inl ⟨rfl, parsed⟩) rfl rfl rfl rfl rfl rfl rfl
  | refused id copy since channel consumer text held waiting =>
    -- the execution exists, though it never got to its first await
    exact .delivered _ copy since held waiting (Or.inr rfl) rfl rfl rfl rfl rfl rfl rfl
  | handlerSettled id handler result redis after found settled =>
    exact .settled id handler result after _ rfl found
      (OrderNotificationConsumer.settle_cases settled) rfl rfl rfl
  | handlerResumed id handler sendThrows copy segment found held resumed =>
    exact .resumed id handler sendThrows copy segment rfl found held
      (OrderNotificationConsumer.resume_cases resumed) rfl rfl rfl rfl rfl
  | crashed host => exact .crashed host rfl rfl rfl rfl rfl
  | _ => exact .idle rfl rfl [] (by simp) rfl

/-- What a step did to the execution that is `after` once it is taken. -/
inductive HandlerStep (s : State) (a : Action) (s' : State) (id : HandlerId) (after : Handler) :
    Prop
  | kept (found : s.handlers[id]? = some after)
  | delivered (copy : Copy) (since : Time) (fresh : id = s.handlers.length)
      (held : s.copies[after.copy]? = some copy)
      (waiting : copy.place = .ready .notification since)
      (start : (after.pc = .checking ∧
        OrderNotificationConsumer.start copy.message.content = .ok after.orderId) ∨
        after.pc = .rejected)
      (deliveredAt : after.deliveredAt = s.now) (unchecked : after.checkedAt = none)
      (untried : after.triedAt = none)
  | settled (handler : Handler) (result : CallResult) (events : List Event)
      (action : a = .handlerSettles id result) (found : s.handlers[id]? = some handler)
      (moved : OrderNotificationConsumer.Settles s.redis s.now id handler s.stored result s'.redis
        after events)
      (history : s'.history = events ++ s.history)
  | resumed (handler : Handler) (sendThrows : Bool) (copy : Copy) (segment : Segment)
      (action : a = .handlerResumes id sendThrows) (found : s.handlers[id]? = some handler)
      (held : s.copies[handler.copy]? = some copy)
      (moved : OrderNotificationConsumer.Continues copy.message s.copies.length
        (s.channelOps handler.channel sendThrows) handler.pc segment)
      (copies : s'.copies = s.runSegment id handler segment)
      (same : after = { handler with pc := segment.pc })
  | crashed (handler : Handler) (found : s.handlers[id]? = some handler)
      (same : after = { handler with pc := handler.pc.crash })

theorem ConsumerStep.handler {s s' : State} {a : Action} (taken : ConsumerStep s a s')
    {id : HandlerId} {after : Handler} (found : s'.handlers[id]? = some after) :
    HandlerStep s a s' id after := by
  cases taken with
  | idle handlers =>
    rw [handlers] at found
    exact .kept found
  | delivered handler copy since held waiting start deliveredAt unchecked untried now handlers =>
    rw [handlers] at found
    rcases Registry.of_added found with old | ⟨fresh, rfl⟩
    · exact .kept old
    · exact .delivered copy since fresh held waiting start deliveredAt unchecked untried
  | settled mover handler result moving events action present moved now handlers history =>
    rw [handlers] at found
    rcases Registry.of_set found with ⟨rfl, rfl⟩ | ⟨_, old⟩
    · exact .settled handler result events action present moved history
    · exact .kept old
  | resumed mover handler sendThrows copy segment action present held moved copies now handlers =>
    rw [handlers] at found
    rcases Registry.of_set found with ⟨rfl, rfl⟩ | ⟨_, old⟩
    · exact .resumed handler sendThrows copy segment action present held moved copies rfl
    · exact .kept old
  | crashed host action now handlers =>
    rw [handlers] at found
    obtain ⟨before, old, rfl⟩ := Registry.of_map found
    unfold Handler.crash
    split
    · exact .crashed before old rfl
    -- an execution on another instance
    · exact .kept old

/-- The history only grows. -/
theorem ConsumerStep.remembers {s s' : State} {a : Action} (taken : ConsumerStep s a s') :
    ∀ event ∈ s.history, event ∈ s'.history := by
  intro event member
  cases taken with
  | idle handlers redis events foreign history
  | settled id handler result after events action found moved now handlers history =>
    rw [history]
    exact List.mem_append_right _ member
  | delivered handler copy since held waiting fresh deliveredAt unchecked untried now handlers
      redis history =>
    rw [history]
    exact member
  | resumed id handler sendThrows copy segment action found held moved copies now handlers redis
      history =>
    rw [history]
    exact member
  | crashed host action now handlers redis history =>
    rw [history]
    exact member

/-- A step leaves what the history told, or an execution's call notes one thing down. -/
theorem ConsumerStep.history_cases {s s' : State} {a : Action} (taken : ConsumerStep s a s')
    {event : Event} (consumer : event.outboxId? = none) (noted : event ∈ s'.history) :
    event ∈ s.history ∨ ∃ mover handler result after events,
      a = .handlerSettles mover result ∧ s.handlers[mover]? = some handler ∧
      OrderNotificationConsumer.Settles s.redis s.now mover handler s.stored result s'.redis after
        events ∧ s'.handlers[mover]? = some after ∧ event ∈ events := by
  cases taken with
  | idle handlers redis events foreign history =>
    rw [history] at noted
    rcases List.mem_append.mp noted with new | old
    · exact absurd consumer (foreign event new)
    · exact Or.inl old
  | settled mover handler result after events action found moved now handlers history =>
    rw [history] at noted
    rcases List.mem_append.mp noted with new | old
    · refine Or.inr ⟨mover, handler, result, after, events, action, found, moved, ?_, new⟩
      rw [handlers]
      exact Registry.set_self found
    · exact Or.inl old
  | delivered handler copy since held waiting fresh deliveredAt unchecked untried now handlers
      redis history => exact Or.inl (history ▸ noted)
  | resumed mover handler sendThrows copy segment action found held moved copies now handlers redis
      history => exact Or.inl (history ▸ noted)
  | crashed host action now handlers redis history => exact Or.inl (history ▸ noted)

end FlashSaleLab
