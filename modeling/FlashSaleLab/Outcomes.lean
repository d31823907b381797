import FlashSaleLab.Consumer.Holding
import FlashSaleLab.Consumer.Idempotence
import FlashSaleLab.Consumer.Settlement
import FlashSaleLab.Recoverability

/-!
# Every order ends once

In a run in which no delivery is disturbed the message of an order is in one place: whoever publishes
a copy of it has given up the copy before. So an order ends with one completed notification or with
one message in the DLQ, never with both, whatever Redis, the notification or the publishers do.
-/
namespace FlashSaleLab

open OrderNotificationConsumer Transition

namespace HandlerPc

/-- Has published a copy of its message, or has returned. -/
def passedOn : HandlerPc → Bool
  | .confirming _ => true
  | .confirmed (.resolved _) => true
  | .returned => true
  | _ => false

/-- Is past the notification, or has returned. -/
def completed : HandlerPc → Bool
  | .notified (.resolved _) => true
  | .marking => true
  | .marked => true
  | .releasing => true
  | .released => true
  | .returned => true
  | _ => false

end HandlerPc

/-- The copy's execution has passed its message on, and has completed no notification. -/
def Spent (s : State) (own : CopyId) : Prop :=
  ∃ (id : HandlerId) (handler : Handler), s.handlers[id]? = some handler ∧ handler.copy = own ∧
    handler.pc.passedOn = true ∧ ∀ orderId time, .notified orderId id time ∉ s.history

/-- A message of the order rests in the DLQ. -/
def Copy.parked (orderId : Option Json) (copy : Copy) : Bool :=
  match copy.place, start copy.message.content with
  | .ready .dlq _, .ok named => named = orderId
  | _, _ => false

structure OutcomeInv (s : State) : Prop where
  completed : ∀ orderId id time, .notified orderId id time ∈ s.history → ∃ handler : Handler,
    s.handlers[id]? = some handler ∧ handler.orderId = orderId ∧ handler.pc.completed = true
  spent : ∀ (own other : CopyId) (copy copy' : Copy) (orderId : Option Json), own < other →
    s.copies[own]? = some copy → s.copies[other]? = some copy' →
    start copy.message.content = .ok orderId → start copy'.message.content = .ok orderId →
    Spent s own
  published : ∀ (own : CopyId) (copy : Copy) (orderId : Rat), s.copies[own]? = some copy →
    start copy.message.content = .ok (some (.number orderId)) → ∃ row ∈ s.db.outboxEvents,
      row.orderId? = some orderId ∧ .published row.id ∈ s.history
  few : ∀ orderId, s.history.countP (·.notifies orderId) ≤ 1

section Awaits

variable {redis redis' : Redis} {now : Time} {id : HandlerId} {handler after : Handler}
  {stored : CopyId → Bool} {result : CallResult} {events : List Event}

theorem OrderNotificationConsumer.Settles.stays_completed
    (moved : Settles redis now id handler stored result redis' after events)
    (past : handler.pc.completed = true) : after.pc.completed = true := by
  cases moved with
  | markStored | markLost => rfl
  | deleted pc suspended | deleteLost pc suspended =>
    rcases afterDel_cases suspended with ⟨_, rfl⟩ | ⟨again, before, _⟩
    · rfl
    · rw [before] at past
      cases past
  | checked suspended | checkFailed suspended | lockTaken reply suspended
  | lockRefused entry suspended | lockFailed suspended | notified suspended
  | notificationFailed suspended | confirmed own suspended | unconfirmed own suspended =>
    rw [suspended] at past
    cases past

/-- A completed notification is noted down by the execution that awaited it. -/
theorem OrderNotificationConsumer.Settles.notes
    (moved : Settles redis now id handler stored result redis' after events)
    {orderId : Option Json} {mover : HandlerId} {time : Time}
    (noted : .notified orderId mover time ∈ events) : mover = id ∧ handler.pc = .notifying ∧
      orderId = handler.orderId ∧ after.pc.completed = true ∧ after.orderId = handler.orderId := by
  cases moved with
  | notified suspended =>
    cases List.mem_singleton.mp noted
    exact ⟨rfl, suspended, rfl, rfl, rfl⟩
  | lockTaken | markStored => simp at noted
  | _ => cases noted

theorem OrderNotificationConsumer.Settles.stays_passedOn
    (moved : Settles redis now id handler stored result redis' after events)
    (past : handler.pc.passedOn = true) (confirmed : after.pc ≠ .confirmed .rejected) :
    after.pc.passedOn = true := by
  cases moved with
  | confirmed => rfl
  | unconfirmed => exact absurd rfl confirmed
  | deleted pc suspended | deleteLost pc suspended =>
    rcases afterDel_cases suspended with ⟨before, _⟩ | ⟨again, before, _⟩
    · rw [before] at past
      cases past
    · rw [before] at past
      cases past
  | checked suspended | checkFailed suspended | lockTaken reply suspended
  | lockRefused entry suspended | lockFailed suspended | notified suspended
  | notificationFailed suspended | markStored suspended | markLost suspended =>
    rw [suspended] at past
    cases past

end Awaits

section Segments

variable {message message' : Message} {fresh : CopyId} {ops : ChannelOps} {pc : HandlerPc}
  {queue : Queue} {segment : Segment}

/-- A publish site comes before the message is passed on, and after no completed notification. -/
theorem OrderNotificationConsumer.ReadsCounter.early (reading : ReadsCounter pc) :
    pc.passedOn = false ∧ pc.completed = false := by
  cases reading with
  | redisFailed _ failed =>
    cases failed with
    | check => exact ⟨rfl, rfl⟩
    | ack => exact ⟨rfl, rfl⟩
    | lock => exact ⟨rfl, rfl⟩
  | lockNotAcquired => exact ⟨rfl, rfl⟩
  | processingFailed => exact ⟨rfl, rfl⟩

theorem OrderNotificationConsumer.Continues.stays_completed
    (moved : Continues message fresh ops pc segment) (acks : ops.ackThrows = false)
    (past : pc.completed = true) : segment.pc.completed = true := by
  cases moved with
  | notified | marked | completed => rfl
  | ackThrew threw => cases threw.symm.trans acks
  | counterThrew _ reading => cases past.symm.trans reading.early.2
  | republished _ queue message' site | sendFailed _ queue message' site =>
    cases past.symm.trans site.readsCounter.early.2
  | _ => cases past

theorem OrderNotificationConsumer.Continues.stays_passedOn
    (moved : Continues message fresh ops pc segment) (past : pc.passedOn = true) :
    segment.pc.passedOn = true := by
  cases moved with
  | confirmed | unconfirmed => rfl
  | counterThrew _ reading => cases past.symm.trans reading.early.1
  | republished _ queue message' site | sendFailed _ queue message' site =>
    cases past.symm.trans site.readsCounter.early.1
  | _ => cases past

end Segments

section Steps

variable {stock : Int → Option Nat} {s s' : State} {a : Action} {orderId : Option Json}
  {own : CopyId}

/-- Two rows of one order are the same row. -/
theorem LedgerInv.row_unique (ledger : LedgerInv stock s) {row row' : OutboxEvent} {orderId : Rat}
    (listed : row ∈ s.db.outboxEvents) (listed' : row' ∈ s.db.outboxEvents)
    (carries : row.orderId? = some orderId) (carries' : row'.orderId? = some orderId) :
    row = row' := by
  have paired := List.forall₂_map_right_iff.mp ledger.paired
  have keys : s.db.orders.map (fun order => some (order.id : Rat)) =
      s.db.outboxEvents.map OutboxEvent.orderId? := by
    apply Registry.map_forall₂ _ _ paired
    rintro order row ⟨_, requestId, traceContext, payload⟩
    simp only [PrismaOutboxRepository.identity] at payload
    simp [OutboxEvent.orderId?, payload, OutboxPayload.toJson, Json.property]
  have distinct : (s.db.outboxEvents.map OutboxEvent.orderId?).Nodup := by
    rw [← keys]
    have ids := ledger.orderIds.nodup.map (f := fun n : Nat => some (n : Rat)) fun m n same => by
      simpa using same
    rwa [List.map_map] at ids
  exact List.inj_on_of_nodup_map distinct listed listed' (carries.trans carries'.symm)

theorem Spent.step (spent : Spent s own) (inv : HoldingInv s) (inv' : HoldingInv s')
    (deliveries : DeliveriesInv s) (permitted : undisturbed s a) (taken : s.step a = some s') :
    Spent s' own := by
  obtain ⟨id, handler, found, given, past, silent⟩ := spent
  have consumer := consumerStep taken
  -- it notes no notification down now either
  have silent' : ∀ orderId time, .notified orderId id time ∉ s'.history := by
    intro orderId time noted
    rcases consumer.history_cases rfl noted with
      old | ⟨mover, moving, result, after, events, _, present, moved, _, new⟩
    · exact silent orderId time old
    · obtain ⟨rfl, suspended, _⟩ := moved.notes new
      cases found.symm.trans present
      rw [suspended] at past
      cases past
  cases consumer with
  | idle handlers => exact ⟨id, handler, handlers ▸ found, given, past, silent'⟩
  | delivered new copy since held waiting fresh deliveredAt unchecked untried now handlers =>
    exact ⟨id, handler, handlers ▸ Registry.added_of found, given, past, silent'⟩
  | settled mover moving result after events action present moved now handlers =>
    by_cases same : id = mover
    · subst same
      cases found.symm.trans present
      have found' : s'.handlers[id]? = some after := handlers ▸ Registry.set_self present
      refine ⟨id, after, found', moved.identity.1.trans given, ?_, silent'⟩
      exact moved.stays_passedOn past (inv'.confirmed id after found')
    · refine ⟨id, handler, ?_, given, past, silent'⟩
      rw [handlers, Registry.set_other same, found]
  | resumed mover moving sendThrows copy segment action present held moved copies now handlers =>
    by_cases same : id = mover
    · subst same
      cases found.symm.trans present
      refine ⟨id, { handler with pc := segment.pc }, handlers ▸ Registry.set_self present, given,
        moved.stays_passedOn past, silent'⟩
    · refine ⟨id, handler, ?_, given, past, silent'⟩
      rw [handlers, Registry.set_other same, found]
  | crashed host action now handlers =>
    subst action
    rw [inv.crash_quiet deliveries permitted] at handlers
    exact ⟨id, handler, handlers ▸ found, given, past, silent'⟩

theorem OutcomeInv.completed_step (inv : OutcomeInv s) (holding : HoldingInv s)
    (deliveries : DeliveriesInv s) (permitted : undisturbed s a) (taken : s.step a = some s')
    {id : HandlerId} {time : Time} (noted : .notified orderId id time ∈ s'.history) :
    ∃ handler : Handler, s'.handlers[id]? = some handler ∧ handler.orderId = orderId ∧
      handler.pc.completed = true := by
  have consumer := consumerStep taken
  rcases consumer.history_cases rfl noted with
    old | ⟨mover, moving, result, after, events, _, present, moved, found', new⟩
  · obtain ⟨handler, found, names, past⟩ := inv.completed orderId id time old
    cases consumer with
    | idle handlers => exact ⟨handler, handlers ▸ found, names, past⟩
    | delivered new copy since held waiting fresh deliveredAt unchecked untried now handlers =>
      exact ⟨handler, handlers ▸ Registry.added_of found, names, past⟩
    | settled mover moving result after events action present moved now handlers =>
      by_cases same : id = mover
      · subst same
        cases found.symm.trans present
        exact ⟨after, handlers ▸ Registry.set_self present, moved.identity.2.2.1.trans names,
          moved.stays_completed past⟩
      · exact ⟨handler, by rw [handlers, Registry.set_other same, found], names, past⟩
    | resumed mover moving sendThrows copy segment action present held moved copies now handlers =>
      by_cases same : id = mover
      · subst same
        cases found.symm.trans present
        subst action
        cases permitted
        refine ⟨{ handler with pc := segment.pc }, handlers ▸ Registry.set_self present, names, ?_⟩
        -- an execution that resumes has not returned, so its channel is open
        have running : handler.pc ≠ .returned := by
          intro returned
          rw [returned] at moved
          cases moved with
          | counterThrew _ reading => cases reading.early.1
          | republished _ queue message' site | sendFailed _ queue message' site =>
            cases site.readsCounter.early.1
        obtain ⟨_, _, _, usable⟩ := holding.open_ deliveries present running
        rw [channelOps_open usable] at moved
        exact moved.stays_completed rfl past
      · exact ⟨handler, by rw [handlers, Registry.set_other same, found], names, past⟩
    | crashed host action now handlers =>
      subst action
      rw [holding.crash_quiet deliveries permitted] at handlers
      exact ⟨handler, handlers ▸ found, names, past⟩
  · obtain ⟨rfl, _, rfl, past, same⟩ := moved.notes new
    exact ⟨after, found', same, past⟩

/-- The event a publisher publishes is no event a copy was published of. -/
theorem OutcomeInv.published_fresh (inv : OutcomeInv s) (ledger : LedgerInv stock s)
    (hands : AnnouncedInv s) (single : ∀ e, SingleInv s e) {host : InstanceId}
    {event : PendingOutboxEvent} {rest : List PendingOutboxEvent}
    (suspended : (s.publishers host).pc = .claimed event rest (.resolved true)) {copy : Copy}
    (found : s.copies[own]? = some copy) :
    start copy.message.content ≠ .ok (some (.number event.payload.orderId)) := by
  intro names
  obtain ⟨row, listed, carries, noted⟩ := inv.published own copy _ found names
  obtain ⟨row', listed', checked⟩ := (hands.hands host).rows event
    (by simp [suspended, PublisherPc.events])
  have same := ledger.row_unique listed listed' carries (orderId?_toPending checked)
  obtain ⟨sameId, _⟩ := PrismaOutboxRepository.toPending_ok checked
  apply (single event.id).unpublished host ⟨event, rest, suspended, rfl⟩
  rw [sameId, ← same]
  exact noted

/-- An execution at a publish site completed no notification. -/
theorem OutcomeInv.site_silent (inv : OutcomeInv s) (taken : s.step a = some s')
    {mover : HandlerId} {handler : Handler} (found : s.handlers[mover]? = some handler)
    {message message' : Message} {queue : Queue}
    (site : Republishes message handler.pc queue message') :
    ∀ orderId time, .notified orderId mover time ∉ s'.history := by
  intro orderId time noted
  have early := site.readsCounter.early.2
  rcases (consumerStep taken).history_cases rfl noted with
    old | ⟨other, moving, result, after, events, _, present, moved, _, new⟩
  · obtain ⟨_, present, _, past⟩ := inv.completed orderId mover time old
    cases found.symm.trans present
    cases past.symm.trans early
  · obtain ⟨rfl, suspended, _⟩ := moved.notes new
    cases found.symm.trans present
    rw [suspended] at site
    cases site with
    | redisExhausted _ failed | redisRetry _ failed => cases failed

theorem OutcomeInv.spent_step (inv : OutcomeInv s) (holding : HoldingInv s)
    (holding' : HoldingInv s') (deliveries : DeliveriesInv s) (ledger : LedgerInv stock s)
    (hands : AnnouncedInv s) (single : ∀ e, SingleInv s e) (permitted : undisturbed s a)
    (taken : s.step a = some s') {other : CopyId} {copy copy' : Copy} (less : own < other)
    (found : s'.copies[own]? = some copy) (found' : s'.copies[other]? = some copy')
    (names : start copy.message.content = .ok orderId)
    (names' : start copy'.message.content = .ok orderId) : Spent s' own := by
  have goes (spent : Spent s own) : Spent s' own :=
    spent.step holding holding' deliveries permitted taken
  -- the older one of the two is no new copy
  have old (bound : own < s.copies.length) :
      ∃ before, s.copies[own]? = some before ∧ start before.message.content = .ok orderId := by
    obtain ⟨before, present⟩ : ∃ before, s.copies[own]? = some before :=
      ⟨_, List.getElem?_eq_getElem bound⟩
    obtain ⟨place, stays⟩ := copies_stay taken present
    cases found.symm.trans stays
    exact ⟨before, present, names⟩
  cases copyStep taken found' with
  | moved before present placed same =>
    obtain ⟨first, present', names₁⟩ := old (less.trans (Registry.lt_of_found present))
    rw [same] at names'
    exact goes (inv.spent own other first before orderId less present' present names₁ names')
  | published host event rest channel fresh suspended made =>
    obtain ⟨first, present, names₁⟩ := old (fresh ▸ less)
    rw [made, start_message] at names'
    cases names'
    exact absurd names₁ (inv.published_fresh ledger hands single suspended present)
  | republished mover handler parent queue message fresh present held site made waits =>
    obtain ⟨first, present', names₁⟩ := old (fresh ▸ less)
    have names₂ : start parent.message.content = .ok orderId := by
      rw [made] at names'
      rw [← site.content]
      exact names'
    rcases Nat.lt_trichotomy own handler.copy with before | same | after
    · exact goes (inv.spent own handler.copy first parent orderId before present' held names₁ names₂)
    · -- the copy whose execution publishes the new one
      exact ⟨mover, _, waits, same.symm, rfl, inv.site_silent taken present site⟩
    · -- its execution would have passed the message on already
      obtain ⟨id, handler', found₁, given, past, _⟩ :=
        inv.spent handler.copy own parent first orderId after held present' names₂ names₁
      cases holding.once id mover handler' handler found₁ present given
      cases found₁.symm.trans present
      cases past.symm.trans site.readsCounter.early.1

/-- Where a new copy comes from: an execution, or a publication that is noted down. -/
theorem fresh_copy (taken : s.step a = some s') {copy : Copy}
    (found : s'.copies[s.copies.length]? = some copy) : copy.source ≠ none ∨
      ∃ host event rest, (s.publishers host).pc = .claimed event rest (.resolved true) ∧
        .published event.id ∈ s'.history ∧
        copy.message = RabbitMqService.message event.payload.orderId event.payload.requestId := by
  have grown : s.copies.length < s'.copies.length := Registry.lt_of_found found
  obtain ⟨t, acts, rfl⟩ := State.step_cases taken
  cases acts with
  | published host channel sendThrows segment message resumed sent =>
    have moved := OutboxPublisherService.resume_cases resumed
    rw [sent] at moved
    generalize paused : segment.publisher.pc = pc at moved
    cases moved with
    | published event rest suspended =>
      rcases Registry.of_added found with old | ⟨_, rfl⟩
      · exact absurd (Registry.lt_of_found old) (Nat.lt_irrefl _)
      · exact Or.inr ⟨host, event, rest, suspended, by simp [PublisherPc.published?], rfl⟩
  | handlerResumed mover handler sendThrows given segment =>
    left
    simp only [State.runSegment] at found
    cases sent : segment.sent with
    | none =>
      refine absurd grown ?_
      simp only [State.runSegment, sent]
      cases segment.settled with
      | none => exact Nat.lt_irrefl _
      | some settlement => simp [Copies.settle]
    | some pair =>
      have made {new : Copy} (present : (s.copies.publish pair.2 pair.1 handler.channel
          (some (mover, handler.copy)) s.now)[s.copies.length]? = some new) : new.source ≠ none := by
        rw [Copies.publish, List.getElem?_concat_length] at present
        cases present
        exact Option.some_ne_none _
      simp only [sent] at found
      cases settles : segment.settled with
      | none =>
        simp only [settles] at found
        exact made found
      | some settlement =>
        simp only [settles] at found
        obtain ⟨old, present, rfl⟩ := Registry.of_modify found
        have sourced := made present
        split
        · exact sourced
        · exact sourced
  | stored | deadLettered | acked | requeued | delivered | refused =>
    exact absurd grown (by simp [Copies.move])
  | lost | crashed => exact absurd grown (by simp [State.crash, Copies.dropChannels])
  | _ => exact absurd grown (Nat.lt_irrefl _)

theorem OutcomeInv.published_step (inv : OutcomeInv s) (calls : CallsInv s)
    (ledger : LedgerInv stock s) (hands : AnnouncedInv s) (taken : s.step a = some s')
    {copy : Copy} {orderId : Rat} (found : s'.copies[own]? = some copy)
    (names : start copy.message.content = .ok (some (.number orderId))) :
    ∃ row ∈ s'.db.outboxEvents, row.orderId? = some orderId ∧ .published row.id ∈ s'.history := by
  have outbox := outboxStep calls ledger taken
  -- rows keep what they announce, and nothing is struck out of the history
  have kept {row : OutboxEvent} (listed : row ∈ s.db.outboxEvents)
      (carries : row.orderId? = some orderId) (noted : .published row.id ∈ s'.history) :
      ∃ row ∈ s'.db.outboxEvents, row.orderId? = some orderId ∧
        .published row.id ∈ s'.history := by
    obtain ⟨row', listed', same⟩ := outbox.row_stays listed
    have ids : row'.id = row.id := congrArg Prod.fst same
    exact ⟨row', listed', (orderId?_of_identity same).trans carries, ids ▸ noted⟩
  have copied {before : Copy} {id : CopyId} (present : s.copies[id]? = some before)
      (same : copy.message.content = before.message.content) :
      ∃ row ∈ s'.db.outboxEvents, row.orderId? = some orderId ∧
        .published row.id ∈ s'.history := by
    obtain ⟨row, listed, carries, noted⟩ := inv.published id before orderId present (same ▸ names)
    exact kept listed carries ((consumerStep taken).remembers _ noted)
  cases copyStep taken found with
  | moved before present placed same => exact copied present (by rw [same])
  | republished mover handler parent queue message fresh present held site made =>
    exact copied held (by rw [made]; exact site.content)
  | published host event rest channel fresh suspended made =>
    rcases fresh_copy taken (fresh ▸ found) with sourced | ⟨host, event, rest, suspended, noted, same⟩
    · rw [made] at sourced
      exact absurd rfl sourced
    · rw [same, start_message] at names
      cases names
      obtain ⟨row, listed, checked⟩ := (hands.hands host).rows event
        (by simp [suspended, PublisherPc.events])
      obtain ⟨sameId, _⟩ := PrismaOutboxRepository.toPending_ok checked
      exact kept listed (orderId?_toPending checked) (sameId ▸ noted)

/-- A notification is completed by the only execution that could. -/
theorem OutcomeInv.unnotified (inv : OutcomeInv s) (holding : HoldingInv s)
    (handlers : HandlersInv s) (caught : CaughtInv s) {id : HandlerId} {handler : Handler}
    (found : s.handlers[id]? = some handler) (suspended : handler.pc = .notifying) :
    s.history.countP (·.notifies handler.orderId) = 0 := by
  rw [List.countP_eq_zero]
  intro event noted notifies
  obtain ⟨orderId, other, time, rfl⟩ : ∃ orderId other time, event = .notified orderId other time := by
    cases event with
    | notified orderId other time => exact ⟨orderId, other, time, rfl⟩
    | _ => cases notifies
  have same : orderId = handler.orderId := by simpa [Event.notifies] using notifies
  obtain ⟨handler', found', names', past⟩ := inv.completed orderId other time noted
  have apart : id ≠ other := by
    rintro rfl
    cases found.symm.trans found'
    rw [suspended] at past
    cases past
  obtain ⟨copy, held, _, reads⟩ := (handlers id handler found).given
  obtain ⟨copy', held', _, reads'⟩ := (handlers other handler' found').given
  have names := reads (caught id handler found)
  have names'' := reads' (caught other handler' found')
  rw [names', same] at names''
  -- of the two copies the older one is spent
  rcases Nat.lt_trichotomy handler.copy handler'.copy with before | equal | after
  · obtain ⟨mover, handler₁, found₁, given, passed, _⟩ :=
      inv.spent _ _ copy copy' _ before held held' names names''
    cases holding.once mover id handler₁ handler found₁ found given
    cases found₁.symm.trans found
    rw [suspended] at passed
    cases passed
  · exact absurd (holding.once id other handler handler' found found' equal) apart
  · obtain ⟨mover, handler₁, found₁, given, _, silent⟩ :=
      inv.spent _ _ copy' copy _ after held' held names'' names
    cases holding.once mover other handler₁ handler' found₁ found' given
    exact silent orderId time noted

theorem OutcomeInv.few_step (inv : OutcomeInv s) (holding : HoldingInv s) (handlers : HandlersInv s)
    (caught : CaughtInv s) (taken : s.step a = some s') :
    s'.history.countP (·.notifies orderId) ≤ 1 := by
  have quiet {events : List Event} (history : s'.history = events ++ s.history)
      (none_ : events.countP (·.notifies orderId) = 0) :
      s'.history.countP (·.notifies orderId) ≤ 1 := by
    rw [history, List.countP_append, none_, Nat.zero_add]
    exact inv.few orderId
  cases consumerStep taken with
  | idle _ _ events foreign history =>
    apply quiet history
    rw [List.countP_eq_zero]
    intro event member notifies
    cases event with
    | notified => exact foreign _ member rfl
    | _ => cases notifies
  | delivered _ _ _ _ _ _ _ _ _ _ _ _ history => exact history ▸ inv.few orderId
  | resumed _ _ _ _ _ _ _ _ _ _ _ _ _ history => exact history ▸ inv.few orderId
  | crashed _ _ _ _ _ history => exact history ▸ inv.few orderId
  | settled id handler result after events action found moved now _ history =>
    generalize s'.redis = redis at moved
    cases moved with
    | notified suspended =>
      by_cases same : handler.orderId = orderId
      · have none_ := inv.unnotified holding handlers caught found suspended
        rw [history, List.countP_append, ← same, none_]
        exact List.countP_le_length
      · exact quiet history (by simp [Event.notifies, same])
    | lockTaken | markStored => exact quiet history (by simp [Event.notifies])
    | _ => exact quiet history rfl

theorem OutcomeInv.step (inv : OutcomeInv s) (holding : HoldingInv s) (holding' : HoldingInv s')
    (single : ∀ e, SingleInv s e) (reachable : (system stock).Reachable undisturbed s)
    (permitted : undisturbed s a) (taken : s.step a = some s') : OutcomeInv s' := by
  obtain ⟨calls, ledger⟩ := sales_invariant reachable
  obtain ⟨deliveries, caught⟩ := deliveries_invariant reachable
  have hands := announced_invariant reachable
  constructor
  · exact fun _ _ _ noted => inv.completed_step holding deliveries permitted taken noted
  · exact fun _ _ _ _ _ less found found' names names' => inv.spent_step holding holding' deliveries
      ledger hands single permitted taken less found found' names names'
  · exact fun _ _ _ found names => inv.published_step calls ledger hands taken found names
  · exact fun _ => inv.few_step holding (copies_invariant reachable).2 caught taken

theorem outcome_invariant (reachable : (system stock).Reachable undisturbed s) :
    HoldingInv s ∧ OutcomeInv s ∧ ∀ e, SingleInv s e := by
  apply reachable.invariant (I := fun s => HoldingInv s ∧ OutcomeInv s ∧ ∀ e, SingleInv s e)
  · rintro s rfl
    refine ⟨⟨?_, ?_, ?_⟩, ⟨?_, ?_, ?_, fun _ => Nat.zero_le 1⟩, fun e => ⟨?_, ?_, ?_, ?_⟩⟩
    · intro id handler found
      cases found
    · intro id other handler handler' found
      cases found
    · intro id handler found
      cases found
    · intro orderId id time noted
      cases noted
    · intro own other copy copy' orderId less found
      cases found
    · intro own copy orderId found
      cases found
    · rintro host ⟨event, rest, suspended, _⟩
      cases suspended
    · rintro host other ⟨event, rest, suspended, _⟩
      cases suspended
    · rintro (noted | ⟨host, event, rest, suspended, _⟩)
      · cases noted
      · cases suspended
    · intro touched row listed
      cases listed
  · rintro s a s' before ⟨holding, outcome, single⟩ permitted taken
    obtain ⟨calls, ledger⟩ := sales_invariant before
    have ledger' := (sales_invariant (before.step permitted taken)).2
    have holding' := holding.step (deliveries_invariant before).1 (bodies_invariant before)
      (copies_invariant before).1 permitted taken
    refine ⟨holding', outcome.step holding holding' single before permitted taken, fun e => ?_⟩
    apply SingleInv.step single calls ledger.eventIds.nodup ledger'.eventIds.nodup taken
    rintro calledAt rfl
    exact permitted

/-- A message in the DLQ has no execution. -/
theorem HoldingInv.parked_unspent (inv : HoldingInv s) {copy : Copy} {since : Time}
    (found : s.copies[own]? = some copy) (waits : copy.place = .ready .dlq since) :
    ∀ (id : HandlerId) (handler : Handler), s.handlers[id]? = some handler →
      handler.copy ≠ own := by
  rintro id handler present rfl
  obtain ⟨_, held, at_⟩ := inv.held id handler present
  cases found.symm.trans held
  rw [waits] at at_
  exact not_held_ready at_

theorem Copy.parked_iff {copy : Copy} : copy.parked orderId = true ↔
    (∃ since, copy.place = .ready .dlq since) ∧ start copy.message.content = .ok orderId := by
  unfold Copy.parked
  split
  next since named place names =>
    simp [place, names]
  next other =>
    constructor
    · intro impossible
      cases impossible
    · rintro ⟨⟨since, place⟩, names⟩
      exact absurd names (other since orderId place)

/-- Notified or parked, and once. -/
theorem OutcomeInv.at_most_one (inv : OutcomeInv s) (holding : HoldingInv s)
    (handlers : HandlersInv s) (caught : CaughtInv s) (orderId : Option Json) :
    s.history.countP (·.notifies orderId) + s.copies.countP (Copy.parked orderId) ≤ 1 := by
  have few := inv.few orderId
  have one : s.copies.countP (Copy.parked orderId) ≤ 1 := by
    apply Registry.countP_le_one
    intro i j copy copy' found found' parked parked'
    obtain ⟨⟨since, place⟩, names⟩ := Copy.parked_iff.mp parked
    obtain ⟨⟨since', place'⟩, names'⟩ := Copy.parked_iff.mp parked'
    -- the older one would be spent, and has no execution
    rcases Nat.lt_trichotomy i j with before | same | after
    · obtain ⟨id, handler, present, given, _⟩ :=
        inv.spent i j copy copy' orderId before found found' names names'
      exact absurd given (holding.parked_unspent found place id handler present)
    · exact same
    · obtain ⟨id, handler, present, given, _⟩ :=
        inv.spent j i copy' copy orderId after found' found names' names
      exact absurd given (holding.parked_unspent found' place' id handler present)
  rcases Nat.eq_zero_or_pos (s.history.countP (·.notifies orderId)) with none_ | notified
  · omega
  · obtain ⟨event, noted, notifies⟩ := List.countP_pos_iff.mp notified
    obtain ⟨id, time, rfl⟩ : ∃ id time, event = .notified orderId id time := by
      cases event with
      | notified named id time =>
        obtain rfl : named = orderId := by simpa [Event.notifies] using notifies
        exact ⟨id, time, rfl⟩
      | _ => cases notifies
    obtain ⟨handler, present, rfl, _⟩ := inv.completed orderId id time noted
    obtain ⟨copy, held, _, reads⟩ := (handlers id handler present).given
    have names := reads (caught id handler present)
    have none_ : s.copies.countP (Copy.parked handler.orderId) = 0 := by
      rw [List.countP_eq_zero]
      intro copy' member parked
      obtain ⟨own, found⟩ := List.mem_iff_getElem?.mp member
      obtain ⟨⟨since, place⟩, names'⟩ := Copy.parked_iff.mp parked
      have unheld := holding.parked_unspent found place
      rcases Nat.lt_trichotomy handler.copy own with before | same | after
      · obtain ⟨other, handler', found', given, _, silent⟩ :=
          inv.spent _ _ copy copy' _ before held found names names'
        cases holding.once other id handler' handler found' present given
        exact silent _ time noted
      · exact unheld id handler present same
      · obtain ⟨other, handler', found', given, _⟩ :=
          inv.spent _ _ copy' copy _ after found held names' names
        exact unheld other handler' found' given
    omega

end Steps

/-- **One outcome.** In a run in which no delivery is disturbed an order has at most one outcome in
every state: a completed notification or a message in the DLQ. When its event is SENT and no message
of it is under way any more, it has exactly one, whatever the other orders do. -/
theorem every_order_ends_once (stock : Int → Option Nat) (s : State)
    (reachable : (system stock).Reachable undisturbed s) (order : Order)
    (member : order ∈ s.db.orders) :
    s.history.countP (·.notifies (some (.number order.id))) +
        s.copies.countP (Copy.parked (some (.number order.id))) ≤ 1 ∧
      ((∀ row ∈ s.db.outboxEvents, row.announces order.id = true → row.status = .sent) →
        (∀ copy ∈ s.copies, start copy.message.content = .ok (some (.number order.id)) →
          copy.place = .gone ∨ ∃ since, copy.place = .ready .dlq since) →
        s.history.countP (·.notifies (some (.number order.id))) +
          s.copies.countP (Copy.parked (some (.number order.id))) = 1) := by
  obtain ⟨holding, inv, _⟩ := outcome_invariant reachable
  have few := inv.at_most_one holding (copies_invariant reachable).2 (deliveries_invariant reachable).2
    (some (.number order.id))
  refine ⟨few, fun sent rest => ?_⟩
  have any := reachable.mono fun _ _ _ => trivial
  obtain ⟨id, copy, found, stored, names⟩ := order_announced any member sent
  -- the message is still somewhere, or it was notified
  rcases kept_invariant any id copy _ found stored names with
    ⟨mover, time, noted⟩ | ⟨later, kept, _, present, content, safe⟩
  · have notified : 0 < s.history.countP (·.notifies (some (.number order.id))) :=
      List.countP_pos_iff.mpr ⟨_, noted, by simp [Event.notifies]⟩
    omega
  · have parked : 0 < s.copies.countP (Copy.parked (some (.number order.id))) := by
      apply List.countP_pos_iff.mpr
      refine ⟨kept, List.mem_of_getElem? present, ?_⟩
      have own : start kept.message.content = .ok (some (.number order.id)) := content ▸ names
      rcases rest kept (List.mem_of_getElem? present) own with gone | ⟨since, place⟩
      · rw [gone] at safe
        cases safe
      · exact Copy.parked_iff.mpr ⟨⟨since, place⟩, own⟩
    omega

/-- Steps whose permission can be computed. -/
def calm (s : State) : Action → Bool
  | .loseChannel _ => false
  | .crash _ => false
  | .recoverStuckProcessing _ => false
  | .handlerSettles id result =>
    result = .ok || ((s.handlers[id]?).map fun handler => handler.pc) = some .checking
  | .handlerResumes _ sendThrows => !sendThrows
  | _ => true

theorem calm_sound (s : State) (a : Action) (calmly : calm s a = true) : undisturbed s a := by
  cases a with
  | handlerSettles id result =>
    rintro ⟨handler, own, found, suspended⟩
    simpa [calm, found, suspended] using calmly
  | handlerResumes id sendThrows =>
    cases sendThrows with
    | false => rfl
    | true => cases calmly
  | loseChannel | crash | recoverStuckProcessing => cases calmly
  | _ => trivial

/-- The first processed check fails; the copy in the retry queue is notified 5 s later. -/
def retriedOnce : State :=
  (system fun _ => some 1).play calm (.initial fun _ => some 1)
    (publishedOrder ++ [.publisherSettles 0 .ok, .publisherResumes 0 (some 0) false,
      .publisherSettles 0 .ok, .publisherResumes 0 (some 0) false, .deliver 0 1,
      .handlerSettles 0 (.failed false), .handlerResumes 0 false, .store 1, .handlerSettles 0 .ok,
      .handlerResumes 0 false, .receiveSettlement 0, .tick 5000, .deadLetter 1, .deliver 1 1] ++
      (List.replicate 5 [.handlerSettles 1 .ok, .handlerResumes 1 false]).flatten ++
      [.receiveSettlement 1])

theorem retriedOnce_ends :
    retriedOnce.copies.length = 2 ∧
    retriedOnce.history.countP (·.notifies (some (.number (1 : Nat)))) +
      retriedOnce.copies.countP (Copy.parked (some (.number (1 : Nat)))) = 1 := by
  have orders : retriedOnce.db.orders = [⟨⟨1, 7, 1⟩, 1⟩] := by decide +kernel
  have sent : ∀ row ∈ retriedOnce.db.outboxEvents, row.status = .sent := by decide +kernel
  have rest : retriedOnce.copies.map (·.place) = [.gone, .gone] := by decide +kernel
  refine ⟨by decide +kernel, ?_⟩
  have reachable : (system fun _ => some 1).Reachable undisturbed retriedOnce :=
    System.play_reachable calm calm_sound (.init rfl) _
  have ends := every_order_ends_once (fun _ => some 1) retriedOnce reachable ⟨⟨1, 7, 1⟩, 1⟩
    (orders ▸ List.mem_singleton_self _)
  dsimp only at ends
  apply ends.2 fun row listed _ => sent row listed
  intro copy member _
  have place := List.mem_map_of_mem (f := (·.place)) member
  rw [rest] at place
  left
  simpa using place

end FlashSaleLab
