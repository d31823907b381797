import FlashSaleLab.System

/-!
# What a step of the system can do

`Acts` lists the effects of all actions once, each with the guards it passed. The views of a
step that the properties use (sales, outbox, broker, consumer) are read off it.
-/
namespace FlashSaleLab

namespace State

/-- What an action may do, with the guards it passed. -/
inductive Acts (s : State) : Action → State → Prop
  | ticked (elapsed : Time) : Acts s (.tick elapsed) { s with now := s.now + elapsed }
  | began (call : CreateCall) (fresh : call.pc = .prechecking) (begun : call.begunAt = s.moment)
      (quantity : 1 ≤ call.input.quantity) :
      Acts s (.create call.host call.input call.requestId call.traceContext)
        { s with calls := s.calls ++ [call] }
  | queried (id : CallId) (ok : Bool) (call : CreateCall) (db : Database) (pc : CreatePc)
      (found : s.calls[id]? = some call)
      (executed : OrderService.CreateStep s.db id call s.moment db pc) :
      Acts s (.query id ok) { s with db, calls := s.calls.set id { call with pc } }
  | skipped (host : InstanceId) : Acts s (.publishPending host) s
  | started (host : InstanceId) (publisher : Publisher) (finding : publisher.pc = .finding) :
      Acts s (.publishPending host)
        { s with publishers := Function.update s.publishers host publisher }
  | publisherSettled (host : InstanceId) (result : CallResult) (outboxEvents : List OutboxEvent)
      (publisher : Publisher)
      (settled : OutboxPublisherService.settle s.db.outboxEvents (s.publishers host) s.stored
        result = some (outboxEvents, publisher)) :
      Acts s (.publisherSettles host result) { s with
        db := { s.db with outboxEvents }
        publishers := Function.update s.publishers host publisher
        history :=
          publisherEvents s.db.outboxEvents s.now (s.publishers host) result ++ s.history }
  | publisherAdvanced (host : InstanceId) (channel : Option ChannelId) (sendThrows : Bool)
      (segment : PublisherSegment)
      (resumed : OutboxPublisherService.resume (s.publishers host) s.now
        (s.unavailable host channel sendThrows) s.copies.length = some segment)
      (silent : segment.sent = none) :
      Acts s (.publisherResumes host channel sendThrows)
        { s with publishers := Function.update s.publishers host segment.publisher }
  | published (host : InstanceId) (channel : ChannelId) (sendThrows : Bool)
      (segment : PublisherSegment) (message : Message)
      (resumed : OutboxPublisherService.resume (s.publishers host) s.now
        (s.unavailable host (some channel) sendThrows) s.copies.length = some segment)
      (sent : segment.sent = some message) :
      Acts s (.publisherResumes host (some channel) sendThrows) { s with
        publishers := Function.update s.publishers host segment.publisher
        copies := s.copies.publish message .notification channel none s.now
        history := segment.publisher.pc.published? ++ s.history }
  | recovered (calledAt : Time) (past : calledAt ≤ s.now) :
      Acts s (.recoverStuckProcessing calledAt) { s with
        db := { s.db with
          outboxEvents :=
            (PrismaOutboxRepository.recoverStuckProcessing s.db.outboxEvents calledAt).1 }
        history :=
          (s.db.outboxEvents.filter (PrismaOutboxRepository.stuck calledAt)).map
            (fun event => .recovered event.id) ++ s.history }
  | opened (host : InstanceId) :
      Acts s (.openChannel host) { s with channels := s.channels ++ [⟨host, .opened⟩] }
  | lost (id : ChannelId) (usable : s.channelStatus id = some .opened) :
      Acts s (.loseChannel id) { s with
        channels := s.channels.modify id fun channel => { channel with status := .lost }
        copies := s.copies.dropChannels s.now (· = id) }
  | closed (id : ChannelId) (gone : s.channelStatus id = some .lost) :
      Acts s (.noticeClose id) { s with
        channels := s.channels.modify id fun channel => { channel with status := .closed } }
  | stored (id : CopyId) (copy : Copy) (found : s.copies[id]? = some copy)
      (wire : copy.place = .wire) (usable : s.channelStatus copy.channel = some .opened) :
      Acts s (.store id) { s with copies := s.copies.move id (.ready copy.queue s.now) }
  | deadLettered (id : CopyId) (copy : Copy) (queue : Queue) (since ttl : Time)
      (found : s.copies[id]? = some copy) (waiting : copy.place = .ready queue since)
      (limit : queue.messageTtl = some ttl) (expired : since + ttl ≤ s.now) :
      Acts s (.deadLetter id) { s with copies := s.copies.move id (.ready .notification s.now) }
  | delivered (id : CopyId) (copy : Copy) (since : Time) (channel : ChannelId)
      (consumer : Channel) (orderId : Option Json) (found : s.copies[id]? = some copy)
      (waiting : copy.place = .ready .notification since)
      (registered : s.channels[channel]? = some consumer) (usable : consumer.status = .opened)
      (parsed : OrderNotificationConsumer.start copy.message.content = .ok orderId) :
      Acts s (.deliver id channel) { s with
        copies := s.copies.move id (.unacked s.handlers.length channel none)
        handlers := s.handlers ++
          [⟨consumer.host, channel, id, orderId, .checking, s.now, none, none⟩] }
  | refused (id : CopyId) (copy : Copy) (since : Time) (channel : ChannelId)
      (consumer : Channel) (text : String) (found : s.copies[id]? = some copy)
      (waiting : copy.place = .ready .notification since)
      (registered : s.channels[channel]? = some consumer) (usable : consumer.status = .opened)
      (malformed : OrderNotificationConsumer.start copy.message.content = .error text) :
      Acts s (.deliver id channel) { s with
        copies := s.copies.move id (.unacked s.handlers.length channel none)
        handlers := s.handlers ++
          [⟨consumer.host, channel, id, none, .rejected, s.now, none, none⟩] }
  | acked (id : CopyId) (copy : Copy) (handler : HandlerId) (channel : ChannelId)
      (found : s.copies[id]? = some copy)
      (settled : copy.place = .unacked handler channel (some .ack)) :
      Acts s (.receiveSettlement id) { s with copies := s.copies.move id .gone }
  | requeued (id : CopyId) (copy : Copy) (handler : HandlerId) (channel : ChannelId)
      (found : s.copies[id]? = some copy)
      (settled : copy.place = .unacked handler channel (some .nackRequeue)) :
      Acts s (.receiveSettlement id)
        { s with copies := s.copies.move id (.ready .notification s.now) }
  | handlerSettled (id : HandlerId) (handler : Handler) (result : CallResult) (redis : Redis)
      (after : Handler) (found : s.handlers[id]? = some handler)
      (settled : OrderNotificationConsumer.settle s.redis s.now id handler s.stored result =
        some (redis, after)) :
      Acts s (.handlerSettles id result) { s with
        redis
        handlers := s.handlers.set id after
        history := handlerEvents s.redis s.now id handler result ++ s.history }
  | handlerResumed (id : HandlerId) (handler : Handler) (sendThrows : Bool) (copy : Copy)
      (segment : Segment) (found : s.handlers[id]? = some handler)
      (held : s.copies[handler.copy]? = some copy)
      (resumed : OrderNotificationConsumer.resume copy.message s.copies.length
        (s.channelOps handler.channel sendThrows) handler.pc = some segment) :
      Acts s (.handlerResumes id sendThrows) { s with
        copies := s.runSegment id handler segment
        handlers := s.handlers.set id { handler with pc := segment.pc } }
  | crashed (host : InstanceId) : Acts s (.crash host) (s.crash host)

theorem acts_deliver {s t : State} {id : CopyId} {channel : ChannelId}
    (acted : s.deliver id channel = some t) : Acts s (.deliver id channel) t := by
  unfold deliver at acted
  split at acted
  next copy consumer copies found registered delivered =>
    simp only [Copies.deliver, found] at delivered
    split at delivered
    next since waiting =>
      split at delivered
      next usable =>
        cases delivered
        simp only [registered, Option.map_some, Option.some.injEq] at usable
        cases started : OrderNotificationConsumer.start copy.message.content with
        | ok orderId =>
          simp only [started, Option.some.injEq] at acted
          subst acted
          exact .delivered id copy since channel consumer orderId found waiting registered usable
            started
        | error text =>
          simp only [started, Option.some.injEq] at acted
          subst acted
          exact .refused id copy since channel consumer text found waiting registered usable started
      · cases delivered
    · cases delivered
  · cases acted

theorem acts_publisherResumes {s t : State} {host : InstanceId} {channel : Option ChannelId}
    {sendThrows : Bool} (acted : s.publisherResumes host channel sendThrows = some t) :
    Acts s (.publisherResumes host channel sendThrows) t := by
  unfold publisherResumes at acted
  split at acted
  next segment resumed =>
    cases sent : segment.sent with
    | none =>
      simp only [sent, Option.some.injEq] at acted
      subst acted
      exact .publisherAdvanced host channel sendThrows segment resumed sent
    | some message =>
      cases channel with
      | none =>
        -- without a channel nothing is sent
        have unavailable : s.unavailable host none sendThrows = true := rfl
        rw [unavailable] at resumed
        cases sent.symm.trans (OutboxPublisherService.resume_unavailable resumed)
      | some id =>
        simp only [sent, Option.some.injEq] at acted
        subst acted
        exact .published host id sendThrows segment message resumed sent
  · cases acted

theorem acts_store {s : State} {id : CopyId} {copies : Copies}
    (stored : s.copies.store s.channels id s.now = some copies) :
    Acts s (.store id) { s with copies } := by
  unfold Copies.store at stored
  split at stored
  next copy found =>
    split at stored
    next both =>
      cases stored
      exact .stored id copy found both.1 both.2
    · cases stored
  · cases stored

theorem acts_deadLetter {s : State} {id : CopyId} {copies : Copies}
    (expired : s.copies.deadLetter id s.now = some copies) :
    Acts s (.deadLetter id) { s with copies } := by
  unfold Copies.deadLetter at expired
  split at expired
  next copy found =>
    split at expired
    next queue since waiting =>
      split at expired
      next ttl limit =>
        split at expired
        next expired =>
          cases expired
          exact .deadLettered id copy queue since ttl found waiting limit expired
        · cases expired
      · cases expired
    · cases expired
  · cases expired

theorem acts_receiveSettlement {s : State} {id : CopyId} {copies : Copies}
    (received : s.copies.receiveSettlement id s.now = some copies) :
    Acts s (.receiveSettlement id) { s with copies } := by
  unfold Copies.receiveSettlement at received
  split at received
  next copy found =>
    split at received
    next handler channel settled =>
      cases received
      exact .acked id copy handler channel found settled
    next handler channel settled =>
      cases received
      exact .requeued id copy handler channel found settled
    · cases received
  · cases received

theorem acts_of_act {s t : State} {a : Action} (acted : s.act a = some t) : Acts s a t := by
  cases a with
  | tick elapsed =>
    cases acted
    exact .ticked elapsed
  | create host input requestId traceContext =>
    simp only [act, beginCreate] at acted
    split at acted
    next quantity =>
      cases acted
      exact .began ⟨host, input, requestId, traceContext, s.moment, .prechecking⟩ rfl rfl quantity
    · cases acted
  | query id ok =>
    simp only [act, query] at acted
    split at acted
    next call found =>
      split at acted
      next db pc executed =>
        cases acted
        exact .queried id ok call db pc found (OrderService.create_cases executed)
      · cases acted
    · cases acted
  | publishPending host =>
    simp only [act, publishPending] at acted
    split at acted
    next publisher started =>
      cases acted
      unfold OutboxPublisherService.publishPending at started
      split at started <;> cases started
      exact .started host _ rfl
    · cases acted
      exact .skipped host
  | publisherSettles host result =>
    simp only [act, publisherSettles] at acted
    split at acted
    next rows publisher settled =>
      cases acted
      exact .publisherSettled host result rows publisher settled
    · cases acted
  | publisherResumes host channel sendThrows => exact acts_publisherResumes acted
  | recoverStuckProcessing calledAt =>
    simp only [act, recoverStuckProcessing] at acted
    split at acted
    next past =>
      cases acted
      exact .recovered calledAt past
    · cases acted
  | openChannel host =>
    cases acted
    exact .opened host
  | loseChannel id =>
    simp only [act, loseChannel] at acted
    split at acted
    next usable =>
      cases acted
      exact .lost id usable
    · cases acted
  | noticeClose id =>
    simp only [act, noticeClose] at acted
    split at acted
    next gone =>
      cases acted
      exact .closed id gone
    · cases acted
  | store id =>
    obtain ⟨copies, moved, rfl⟩ := Option.map_eq_some_iff.mp acted
    exact acts_store moved
  | deadLetter id =>
    obtain ⟨copies, moved, rfl⟩ := Option.map_eq_some_iff.mp acted
    exact acts_deadLetter moved
  | receiveSettlement id =>
    obtain ⟨copies, moved, rfl⟩ := Option.map_eq_some_iff.mp acted
    exact acts_receiveSettlement moved
  | deliver id channel => exact acts_deliver acted
  | handlerSettles id result =>
    simp only [act, handlerSettles] at acted
    split at acted
    next handler found =>
      split at acted
      next redis after settled =>
        cases acted
        exact .handlerSettled id handler result redis after found settled
      · cases acted
    · cases acted
  | handlerResumes id sendThrows =>
    simp only [act, handlerResumes] at acted
    split at acted
    next handler found =>
      split at acted
      next copy held =>
        split at acted
        next segment resumed =>
          cases acted
          exact .handlerResumed id handler sendThrows copy segment found held resumed
        · cases acted
      · cases acted
    · cases acted
  | crash host =>
    cases acted
    exact .crashed host

theorem step_cases {s s' : State} {a : Action} (taken : s.step a = some s') :
    ∃ t, Acts s a t ∧ s' = { t with moment := s.moment + 1 } := by
  obtain ⟨t, acted, rfl⟩ := Option.map_eq_some_iff.mp taken
  exact ⟨t, acts_of_act acted, rfl⟩

theorem moment_step {s s' : State} {a : Action} (taken : s.step a = some s') :
    s'.moment = s.moment + 1 := by
  obtain ⟨t, _, rfl⟩ := step_cases taken
  rfl

theorem clock_step {s s' : State} {a : Action} (taken : s.step a = some s') :
    s.now ≤ s'.now := by
  obtain ⟨t, acts, rfl⟩ := step_cases taken
  cases acts with
  | ticked elapsed => exact Nat.le_add_right _ _
  | _ => exact Nat.le_refl _

end State

end FlashSaleLab
