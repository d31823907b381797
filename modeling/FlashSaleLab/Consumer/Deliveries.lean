import FlashSaleLab.Consumer.Lineage
import FlashSaleLab.Provenance

/-!
# Outstanding deliveries

In a whole run every body is one `publishOrderNotification` wrote and every counter one an execution
set, so no execution is left by an exception. A delivery the broker waits for is therefore in the
hands of an execution that still runs, on a channel that is open.
-/
namespace FlashSaleLab

open OrderNotificationConsumer Transition

/-- The execution awaits nothing any more. -/
def HandlerPc.ended : HandlerPc → Bool
  | .returned => true
  | .rejected => true
  | .crashed => true
  | _ => false

/-- Delivery of copy `id` to execution `mover` on `channel`, with the settlement on its way. -/
structure Outstanding (s : State) (id : CopyId) (mover : HandlerId) (channel : ChannelId)
    (settlement : Option Settlement) (handler : Handler) : Prop where
  found : s.handlers[mover]? = some handler
  own : handler.copy = id
  usable : s.channels[channel]? = some ⟨handler.host, .opened⟩
  here : handler.channel = channel
  running : settlement = none → handler.pc.ended = false

/-- Each delivery the broker waits for has its execution. -/
def DeliveriesInv (s : State) : Prop :=
  ∀ (id : CopyId) (copy : Copy) (mover : HandlerId) (channel : ChannelId)
    (settlement : Option Settlement), s.copies[id]? = some copy →
    copy.place = .unacked mover channel settlement →
    ∃ handler, Outstanding s id mover channel settlement handler

/-- Both counters of every message are numbers. -/
theorem CopiesInv.counts {s : State} (copies : CopiesInv s) (id : CopyId) (copy : Copy)
    (found : s.copies[id]? = some copy) :
    ∃ retries processingRetries, copy.message.Counts retries processingRetries := by
  -- on the way up to the publication, which has no headers
  induction id using Nat.strongRecOn generalizing copy with
  | ind id ih =>
    cases (copies id copy found).2 with
    | published orderId requestId source queue message =>
      rw [message]
      exact ⟨0, 0, message_counts orderId requestId⟩
    | republished mover parent before pc source present older alive site =>
      obtain ⟨retries, processingRetries, counts⟩ := ih parent older before present
      rcases site.counts counts with ⟨_, same⟩ | ⟨_, retries', processingRetries', counts', _⟩
      · exact ⟨_, _, same⟩
      · exact ⟨_, _, counts'⟩

namespace OrderNotificationConsumer

section Segments

variable {message : Message} {fresh : CopyId} {ops : ChannelOps}

/-- The segment is not left by an exception, and ends the execution with a settlement if the channel
takes one. -/
structure Segment.Accounts (ops : ChannelOps) (segment : Segment) : Prop where
  caught : segment.pc ≠ .rejected
  settles : ops.nackThrows = false → segment.pc.ended = true → segment.settled ≠ none

theorem Segment.Accounts.waits {sent : Option (Queue × Message)} {settled : Option Settlement}
    {pc : HandlerPc} (running : pc.ended = false) : Segment.Accounts ops ⟨sent, settled, pc⟩ where
  caught rejected := by
    rw [show pc = .rejected from rejected] at running
    cases running
  settles _ ended := by
    rw [show pc.ended = true from ended] at running
    cases running

theorem Segment.Accounts.returns (sent : Option (Queue × Message)) (settlement : Settlement) :
    Segment.Accounts ops ⟨sent, some settlement, .returned⟩ where
  caught := by simp
  settles _ _ := Option.some_ne_none _

theorem nackAndReturn_accounts : Segment.Accounts ops (nackAndReturn ops) where
  caught := by simp [nackAndReturn]
  settles usable _ := by simp [nackAndReturn, usable]

theorem publish_accounts (queue : Queue) (republished : Message) :
    Segment.Accounts ops (publish queue republished fresh ops) := by
  unfold publish
  split
  · exact nackAndReturn_accounts
  · exact .waits rfl

/-- The counter could be read, and a copy of the message goes out. -/
def Publishes (message : Message) (fresh : CopyId) (ops : ChannelOps) (segment : Segment) : Prop :=
  ∃ queue message', segment = publish queue message' fresh ops ∧
    message'.content = message.content

theorem redisFailed_publishes {retryCount : JsNumber}
    (count : message.headers.count "retry-count" = .ok retryCount) :
    Publishes message fresh ops (redisFailed message fresh ops) := by
  unfold redisFailed
  rw [count]
  simp only
  split
  · exact ⟨_, _, rfl, rfl⟩
  · exact ⟨_, _, rfl, rfl⟩

theorem lockNotAcquired_publishes {processingRetryCount : JsNumber}
    (count : message.headers.count "processing-retry-count" = .ok processingRetryCount) :
    Publishes message fresh ops (lockNotAcquired message fresh ops) := by
  unfold lockNotAcquired
  rw [count]
  simp only
  split
  · exact ⟨_, _, rfl, rfl⟩
  · exact ⟨_, _, rfl, rfl⟩

theorem processingFailed_publishes {retryCount : JsNumber}
    (count : message.headers.count "retry-count" = .ok retryCount) :
    Publishes message fresh ops (processingFailed message fresh ops) := by
  unfold processingFailed
  rw [count]
  simp only
  split
  · exact ⟨_, _, rfl, rfl⟩
  · exact ⟨_, _, rfl, rfl⟩

/-- With a `sendToQueue` that does not throw, it is on its way. -/
theorem Publishes.sends {segment : Segment} (publishes : Publishes message fresh ops segment)
    (sends : ops.sendThrows = false) : ∃ queue message',
      segment = ⟨some (queue, message'), none, .confirming fresh⟩ ∧
        message'.content = message.content := by
  obtain ⟨queue, message', rfl, content⟩ := publishes
  refine ⟨queue, message', ?_, content⟩
  simp [publish, sends]

/-- The kinds of segments of an execution whose counters can be read. -/
inductive SegmentKind (message : Message) (fresh : CopyId) (ops : ChannelOps) (pc : HandlerPc) :
    Segment → Prop
  | waits (next : HandlerPc) (running : next.ended = false)
      (unconfirmed : ∀ reply, next ≠ .confirmed reply) :
      SegmentKind message fresh ops pc ⟨none, none, next⟩
  | acks : SegmentKind message fresh ops pc ⟨none, some .ack, .returned⟩
  | publishes (segment : Segment) (publishes : Publishes message fresh ops segment) :
      SegmentKind message fresh ops pc segment
  | gaveUp (cause : pc = .confirmed .rejected ∨ ops.ackThrows = true) :
      SegmentKind message fresh ops pc (nackAndReturn ops)

theorem resume_kind {retries processingRetries : Nat} {pc : HandlerPc} {segment : Segment}
    (counts : message.Counts retries processingRetries)
    (resumed : resume message fresh ops pc = some segment) :
    SegmentKind message fresh ops pc segment := by
  obtain ⟨retry, processing⟩ := counts
  unfold resume at resumed
  -- one goal for each settled await, in the order of `resume`
  split at resumed
  · split at resumed
    · cases resumed
      exact .waits _ rfl (by simp)
    · split at resumed
      · cases resumed
        exact .publishes _ (redisFailed_publishes retry)
      · cases resumed
        exact .acks
  · cases resumed
    exact .waits _ rfl (by simp)
  · cases resumed
    exact .publishes _ (redisFailed_publishes retry)
  · cases resumed
    exact .waits _ rfl (by simp)
  · cases resumed
    exact .publishes _ (lockNotAcquired_publishes processing)
  · cases resumed
    exact .publishes _ (redisFailed_publishes retry)
  · cases resumed
    exact .waits _ rfl (by simp)
  · cases resumed
    exact .waits _ rfl (by simp)
  · cases resumed
    exact .waits _ rfl (by simp)
  · split at resumed
    · cases resumed
      exact .waits _ rfl (by simp)
    · cases resumed
      exact .acks
  · cases resumed
    exact .publishes _ (processingFailed_publishes retry)
  next reply =>
    cases resumed
    unfold afterConfirm
    cases reply with
    | resolved _ =>
      simp only
      split
      next threw => exact .gaveUp (Or.inr threw)
      next => exact .acks
    | rejected => exact .gaveUp (Or.inl rfl)
  · cases resumed

theorem resume_accounts {retries processingRetries : Nat} {pc : HandlerPc} {segment : Segment}
    (counts : message.Counts retries processingRetries)
    (resumed : resume message fresh ops pc = some segment) : Segment.Accounts ops segment := by
  cases resume_kind counts resumed with
  | waits next running => exact .waits running
  | acks => exact .returns _ _
  | gaveUp => exact nackAndReturn_accounts
  | publishes _ publishes =>
    obtain ⟨queue, message', rfl, _⟩ := publishes
    exact publish_accounts queue message'

/-- The end of an await does not end the execution. -/
theorem Settles.running {redis redis' : Redis} {now : Time} {id : HandlerId}
    {handler after : Handler} {stored : CopyId → Bool} {result : CallResult} {events : List Event}
    (moved : Settles redis now id handler stored result redis' after events) :
    after.pc.ended = false ∧ after.copy = handler.copy ∧ after.channel = handler.channel ∧
      after.host = handler.host := by
  cases moved with
  | deleted pc suspended | deleteLost pc suspended =>
    rcases afterDel_cases suspended with ⟨_, rfl⟩ | ⟨_, _, rfl⟩
    · exact ⟨rfl, rfl, rfl, rfl⟩
    · exact ⟨rfl, rfl, rfl, rfl⟩
  | _ => exact ⟨rfl, rfl, rfl, rfl⟩

end Segments

end OrderNotificationConsumer

section Steps

variable {stock : Int → Option Nat} {s s' : State} {a : Action} {id : CopyId}
  {mover : HandlerId} {channel : ChannelId} {settlement : Option Settlement} {handler : Handler}

/-- On an open channel no synchronous call throws but `sendToQueue`. -/
theorem channelOps_open {host : InstanceId} {sendThrows : Bool}
    (usable : s.channels[channel]? = some ⟨host, .opened⟩) :
    s.channelOps channel sendThrows = ⟨false, false, sendThrows⟩ := by
  simp [State.channelOps, State.channelStatus, usable]

/-- A step that leaves the execution and the channel alone. -/
theorem Outstanding.kept (held : Outstanding s id mover channel settlement handler)
    (found : s'.handlers[mover]? = some handler)
    (usable : s'.channels[channel]? = some ⟨handler.host, .opened⟩) :
    Outstanding s' id mover channel settlement handler :=
  ⟨found, held.own, usable, held.here, held.running⟩

/-- A delivery that is unsettled after a `settle` was so before, and is another one. -/
theorem settle_unacked {copies : Copies} {given : CopyId} {other : HandlerId} {own : ChannelId}
    {settles : Settlement} {copy : Copy}
    (found : (copies.settle given other own settles)[id]? = some copy)
    (place : copy.place = .unacked mover channel settlement) :
    ∃ before settlement', copies[id]? = some before ∧
      before.place = .unacked mover channel settlement' ∧ (settlement = none → settlement' = none ∧
        ¬(id = given ∧ mover = other ∧ channel = own)) := by
  obtain ⟨before, old, rfl⟩ := Registry.of_modify found
  refine ⟨before, ?_⟩
  by_cases same : id = given
  · rw [if_pos same] at place
    simp only [Place.settle] at place
    split at place
    next h c was =>
      split at place
      · cases place
        exact ⟨none, old, was, fun none_ => absurd none_ (Option.some_ne_none _)⟩
      next other_ =>
        cases place
        exact ⟨none, old, was, fun _ => ⟨rfl, fun mine => other_ mine.2⟩⟩
    · refine ⟨settlement, old, place, fun unsettled => ⟨unsettled, fun mine => ?_⟩⟩
      subst unsettled
      simp_all
  · rw [if_neg same] at place
    exact ⟨settlement, old, place, fun unsettled => ⟨unsettled, fun mine => same mine.1⟩⟩

/-- A segment publishes at most one copy, and settles at most its own delivery after that. -/
theorem runSegment_cases (s : State) (id : HandlerId) (handler : Handler) (segment : Segment) :
    ∃ published : Copies,
      (published = s.copies ∨ ∃ queue message, published =
        s.copies.publish message queue handler.channel (some (id, handler.copy)) s.now) ∧
      (segment.settled = none ∧ s.runSegment id handler segment = published ∨
        ∃ settles, segment.settled = some settles ∧ s.runSegment id handler segment =
          published.settle handler.copy id handler.channel settles) := by
  unfold State.runSegment
  cases segment.sent with
  | none =>
    refine ⟨s.copies, Or.inl rfl, ?_⟩
    cases segment.settled with
    | none => exact Or.inl ⟨rfl, rfl⟩
    | some settles => exact Or.inr ⟨settles, rfl, rfl⟩
  | some pair =>
    obtain ⟨queue, message⟩ := pair
    refine ⟨_, Or.inr ⟨queue, message, rfl⟩, ?_⟩
    cases segment.settled with
    | none => exact Or.inl ⟨rfl, rfl⟩
    | some settles => exact Or.inr ⟨settles, rfl, rfl⟩

theorem runSegment_unacked {other : HandlerId} {segment : Segment} {copy : Copy}
    (found : (s.runSegment other handler segment)[id]? = some copy)
    (place : copy.place = .unacked mover channel settlement) :
    ∃ before settlement', s.copies[id]? = some before ∧
      before.place = .unacked mover channel settlement' ∧ (settlement = none → settlement' = none ∧
        (segment.settled ≠ none →
          ¬(id = handler.copy ∧ mover = other ∧ channel = handler.channel))) := by
  obtain ⟨published, copies, settles⟩ := runSegment_cases s other handler segment
  -- what the segment publishes is on the wire
  have earlier {before : Copy} {settlement' : Option Settlement}
      (present : published[id]? = some before)
      (was : before.place = .unacked mover channel settlement') : s.copies[id]? = some before := by
    rcases copies with rfl | ⟨queue, message, rfl⟩
    · exact present
    · rcases Registry.of_added present with old | ⟨_, rfl⟩
      · exact old
      · cases was
  rcases settles with ⟨unsettles, same⟩ | ⟨settles', _, same⟩
  · rw [same] at found
    exact ⟨copy, settlement, earlier found place, place, fun unsettled =>
      ⟨unsettled, fun some_ => absurd unsettles some_⟩⟩
  · rw [same] at found
    obtain ⟨before, settlement', old, was, unsettled⟩ := settle_unacked found place
    exact ⟨before, settlement', earlier old was, was, fun none_ =>
      ⟨(unsettled none_).1, fun _ => (unsettled none_).2⟩⟩

theorem DeliveriesInv.step (inv : DeliveriesInv s) (bodies : BodiesInv s) (copies : CopiesInv s)
    (taken : s.step a = some s') : DeliveriesInv s' := by
  intro id copy mover channel settlement found place
  obtain ⟨t, acts, rfl⟩ := State.step_cases taken
  -- the place of another copy moved, to one where it is not unacked
  have moved {other : CopyId} {elsewhere : Place} (notUnacked : ∀ h c st, elsewhere ≠ .unacked h c st)
      (present : (s.copies.move other elsewhere)[id]? = some copy) :
      ∃ handler, Outstanding s id mover channel settlement handler := by
    obtain ⟨before, old, rfl⟩ := Registry.of_modify present
    split at place
    · exact absurd place (notUnacked _ _ _)
    · exact inv id before mover channel settlement old place
  cases acts with
  | opened host =>
    obtain ⟨handler, held⟩ := inv id copy mover channel settlement found place
    exact ⟨handler, held.kept held.found (Registry.added_of held.usable)⟩
  | lost gone usable =>
    obtain ⟨before, old, rfl⟩ := Registry.of_map found
    -- the deliveries of the lost channel go back to their queue
    cases was : before.place with
    | unacked h c st =>
      simp only [was, Place.dropChannel] at place
      split at place
      · cases place
      next other =>
        cases place
        obtain ⟨handler, held⟩ := inv id before mover channel settlement old was
        refine ⟨handler, held.kept held.found ?_⟩
        have apart : channel ≠ gone := by simpa using other
        exact (Registry.modify_of held.usable).trans (by rw [if_neg apart])
    | _ => simp [was, Place.dropChannel] at place
  | closed gone unusable =>
    obtain ⟨handler, held⟩ := inv id copy mover channel settlement found place
    refine ⟨handler, held.kept held.found ?_⟩
    have apart : channel ≠ gone := by
      rintro rfl
      simp [State.channelStatus, held.usable] at unusable
    exact (Registry.modify_of held.usable).trans (by rw [if_neg apart])
  | crashed host =>
    obtain ⟨before, old, rfl⟩ := Registry.of_map found
    cases was : before.place with
    | unacked h c st =>
      simp only [was, Place.dropChannel] at place
      split at place
      · cases place
      next other =>
        cases place
        obtain ⟨handler, held⟩ := inv id before mover channel settlement old was
        have apart : handler.host ≠ host := by
          simpa [State.channelOf, held.usable] using other
        refine ⟨handler, held.kept ?_ ?_⟩
        · simp [State.crash, List.getElem?_map, held.found, apart]
        · simp [State.crash, List.getElem?_map, held.usable, apart]
    | _ => simp [was, Place.dropChannel] at place
  | stored other =>
    obtain ⟨handler, held⟩ := moved (by simp) found
    exact ⟨handler, held.kept held.found held.usable⟩
  | deadLettered other =>
    obtain ⟨handler, held⟩ := moved (by simp) found
    exact ⟨handler, held.kept held.found held.usable⟩
  | acked other =>
    obtain ⟨handler, held⟩ := moved (by simp) found
    exact ⟨handler, held.kept held.found held.usable⟩
  | requeued other =>
    obtain ⟨handler, held⟩ := moved (by simp) found
    exact ⟨handler, held.kept held.found held.usable⟩
  | published =>
    rcases Registry.of_added found with old | ⟨_, rfl⟩
    · obtain ⟨handler, held⟩ := inv id copy mover channel settlement old place
      exact ⟨handler, held.kept held.found held.usable⟩
    · cases place
  | delivered other given since opened consumer orderId held waiting registered usable parsed =>
    obtain ⟨before, old, rfl⟩ := Registry.of_modify found
    split at place
    next same =>
      cases place
      subst same
      obtain ⟨host, status⟩ := consumer
      cases usable
      exact ⟨_, List.getElem?_concat_length, rfl, registered, rfl, fun _ => rfl⟩
    · obtain ⟨handler, held⟩ := inv id before mover channel settlement old place
      exact ⟨handler, held.kept (Registry.added_of held.found) held.usable⟩
  | refused other given since opened consumer text held waiting registered usable malformed =>
    -- the body is one `publishOrderNotification` wrote
    obtain ⟨call, order, requestId, _, body⟩ := bodies other given held
    rw [body, start_body] at malformed
    cases malformed
  | handlerSettled other handler result redis after present settled =>
    obtain ⟨running, held⟩ := inv id copy mover channel settlement found place
    obtain ⟨live, own, here, host⟩ := (settle_cases settled).running
    by_cases same : mover = other
    · subst same
      cases held.found.symm.trans present
      exact ⟨after, Registry.set_self present, own.trans held.own, host ▸ held.usable,
        here.trans held.here, fun _ => live⟩
    · exact ⟨running, held.kept ((Registry.set_other same).trans held.found) held.usable⟩
  | handlerResumed other handler sendThrows given segment present givenFound resumed =>
    obtain ⟨before, settlement', old, was, unsettled⟩ := runSegment_unacked found place
    obtain ⟨running, held⟩ := inv id before mover channel settlement' old was
    by_cases same : mover = other
    · subst same
      cases held.found.symm.trans present
      refine ⟨_, Registry.set_self present, held.own, held.usable, held.here, fun none_ => ?_⟩
      obtain ⟨retries, processingRetries, counts⟩ := copies.counts _ _ givenFound
      rw [held.here, channelOps_open held.usable] at resumed
      -- an execution that ends here settles this very delivery
      by_contra alive
      have ended : segment.pc.ended = true := by simpa using alive
      exact (unsettled none_).2 ((resume_accounts counts resumed).settles rfl ended)
        ⟨held.own.symm, rfl, held.here.symm⟩
    · exact ⟨running, (Registry.set_other same).trans held.found, held.own, held.usable, held.here,
        fun none_ => held.running (unsettled none_).1⟩
  | _ =>
    obtain ⟨handler, held⟩ := inv id copy mover channel settlement found place
    exact ⟨handler, held.kept held.found held.usable⟩

end Steps

/-- No execution was left by an exception. -/
def CaughtInv (s : State) : Prop :=
  ∀ (id : HandlerId) (handler : Handler), s.handlers[id]? = some handler →
    handler.pc ≠ .rejected

theorem CaughtInv.step {s s' : State} {a : Action} (inv : CaughtInv s) (bodies : BodiesInv s)
    (copies : CopiesInv s) (taken : s.step a = some s') : CaughtInv s' := by
  intro id after found
  obtain ⟨t, acts, rfl⟩ := State.step_cases taken
  cases acts with
  | delivered =>
    rcases Registry.of_added found with old | ⟨_, rfl⟩
    · exact inv id after old
    · simp
  | refused other given since opened consumer text held waiting registered usable malformed =>
    obtain ⟨call, order, requestId, _, body⟩ := bodies other given held
    rw [body, start_body] at malformed
    cases malformed
  | handlerSettled other handler result redis settledTo present settled =>
    obtain ⟨live, _⟩ := (settle_cases settled).running
    rcases Registry.of_set found with ⟨rfl, rfl⟩ | ⟨_, old⟩
    · intro rejected
      rw [rejected] at live
      cases live
    · exact inv id after old
  | handlerResumed other handler sendThrows given segment present givenFound resumed =>
    obtain ⟨retries, processingRetries, counts⟩ := copies.counts _ _ givenFound
    rcases Registry.of_set found with ⟨rfl, rfl⟩ | ⟨_, old⟩
    · exact (resume_accounts counts resumed).caught
    · exact inv id after old
  | crashed host =>
    obtain ⟨before, old, rfl⟩ := Registry.of_map found
    split
    · have caught := inv id before old
      simp only
      cases pc : before.pc with
      | rejected => exact absurd pc caught
      | _ => simp [HandlerPc.crash]
    · exact inv id before old
  | _ => exact inv id after found

theorem deliveries_invariant {stock : Int → Option Nat} {allowed : State → Action → Prop}
    {s : State} (reachable : (system stock).Reachable allowed s) :
    DeliveriesInv s ∧ CaughtInv s := by
  apply reachable.invariant (I := fun s => DeliveriesInv s ∧ CaughtInv s)
  · rintro s rfl
    constructor
    · intro id copy mover channel settlement found
      cases found
    · intro id handler found
      cases found
  · rintro s a s' before ⟨deliveries, caught⟩ _ taken
    have bodies := bodies_invariant before
    have copies := (copies_invariant before).1
    exact ⟨deliveries.step bodies copies taken, caught.step bodies copies taken⟩

/-- **No delivery is forgotten.** In every reachable state no execution of `handleMessage` was left
by an exception, and each delivery that is neither acked nor nacked is in the hands of an execution
of that very copy which still runs, on an open channel of its own instance. -/
theorem deliveries_held (stock : Int → Option Nat) (s : State)
    (reachable : (system stock).Reachable anyStep s) :
    (∀ (id : HandlerId) (handler : Handler), s.handlers[id]? = some handler →
      handler.pc ≠ .rejected) ∧
    (∀ (id : CopyId) (copy : Copy) (mover : HandlerId) (channel : ChannelId),
      s.copies[id]? = some copy → copy.place = .unacked mover channel none →
      ∃ handler, s.handlers[mover]? = some handler ∧ handler.copy = id ∧
        handler.channel = channel ∧ s.channels[channel]? = some ⟨handler.host, .opened⟩ ∧
        handler.pc.ended = false) := by
  obtain ⟨deliveries, caught⟩ := deliveries_invariant reachable
  refine ⟨caught, fun id copy mover channel found place => ?_⟩
  obtain ⟨handler, held⟩ := deliveries id copy mover channel none found place
  exact ⟨handler, held.found, held.own, held.here, held.usable, held.running rfl⟩

/-- Instance 0 publishes an order, instance 1 takes the delivery, and the Redis check fails. -/
def checkFailed : State :=
  .after anyStep (fun _ => some 1)
    (publishedOrder ++ [.deliver 0 1, .handlerSettles 0 (.failed false), .handlerResumes 0 false])

theorem checkFailed_held : ∃ copy handler, checkFailed.copies[0]? = some copy ∧
    copy.place = .unacked 0 1 none ∧ checkFailed.handlers[0]? = some handler ∧
    handler.pc = .confirming 1 ∧ handler.pc.ended = false := by
  have placed : (checkFailed.copies[0]?).map (·.place) = some (.unacked 0 1 none) := by
    decide +kernel
  have suspended : (checkFailed.handlers[0]?).map (·.pc) = some (.confirming 1) := by
    decide +kernel
  obtain ⟨copy, found, place⟩ := Option.map_eq_some_iff.mp placed
  obtain ⟨handler, present, _, _, _, running⟩ :=
    (deliveries_held _ checkFailed (State.after_reachable ..)).2 0 copy 0 1 found place
  rw [present, Option.map_some, Option.some.injEq] at suspended
  exact ⟨copy, handler, found, place, present, suspended, running⟩

end FlashSaleLab
