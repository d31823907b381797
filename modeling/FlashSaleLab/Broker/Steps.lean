import FlashSaleLab.Consumer.Steps
import FlashSaleLab.Outbox.Steps

/-!
# What a step does to the copies

A copy's message, queue, publisher and time of publication never change. `PlaceStep` lists the
ways in which it changes its place, `CopyStep` adds the two ways in which a copy comes into
being.
-/
namespace FlashSaleLab

open OrderNotificationConsumer

/-- Where a copy that was at `place` can be after the step. -/
inductive PlaceStep (s : State) (a : Action) (id : CopyId) (queue : Queue) (place : Place) :
    Place → Prop
  | kept : PlaceStep s a id queue place place
  | stored (wire : place = .wire) : PlaceStep s a id queue place (.ready queue s.now)
  | deadLettered (from_ : Queue) (since ttl : Time) (waiting : place = .ready from_ since)
      (limit : from_.messageTtl = some ttl) (expired : since + ttl ≤ s.now) :
      PlaceStep s a id queue place (.ready .notification s.now)
  | delivered (since : Time) (channel : ChannelId)
      (waiting : place = .ready .notification since) :
      PlaceStep s a id queue place (.unacked s.handlers.length channel none)
  | acked (handler : HandlerId) (channel : ChannelId)
      (settled : place = .unacked handler channel (some .ack)) : PlaceStep s a id queue place .gone
  | returned (handler : HandlerId) (channel : ChannelId) (settlement : Option Settlement)
      (unacked : place = .unacked handler channel settlement) :
      PlaceStep s a id queue place (.ready .notification s.now)
  | settled (mover : HandlerId) (handler : Handler) (sendThrows : Bool) (message : Message)
      (ops : ChannelOps) (segment : Segment) (settlement : Settlement)
      (action : a = .handlerResumes mover sendThrows) (found : s.handlers[mover]? = some handler)
      (own : handler.copy = id)
      (moved : Continues message s.copies.length ops handler.pc segment)
      (settles : segment.settled = some settlement)
      (unacked : place = .unacked mover handler.channel none) :
      PlaceStep s a id queue place (.unacked mover handler.channel (some settlement))

/-- What a step did to, or how it made, the copy that is `after` once it is taken. -/
inductive CopyStep (s : State) (a : Action) (s' : State) (id : CopyId) (after : Copy) : Prop
  | moved (before : Copy) (found : s.copies[id]? = some before)
      (placed : PlaceStep s a id before.queue before.place after.place)
      (same : after = { before with place := after.place })
  | published (host : InstanceId) (event : PendingOutboxEvent) (rest : List PendingOutboxEvent)
      (channel : ChannelId) (fresh : id = s.copies.length)
      (suspended : (s.publishers host).pc = .claimed event rest (.resolved true))
      (made : after =
        ⟨RabbitMqService.message event.payload.orderId event.payload.requestId, .notification,
          channel, none, s.now, .wire⟩)
  | republished (mover : HandlerId) (handler : Handler) (parent : Copy) (queue : Queue)
      (message : Message) (fresh : id = s.copies.length)
      (found : s.handlers[mover]? = some handler) (held : s.copies[handler.copy]? = some parent)
      (site : Republishes parent.message handler.pc queue message)
      (made : after =
        ⟨message, queue, handler.channel, some (mover, handler.copy), s.now, .wire⟩)
      (waits : s'.handlers[mover]? = some { handler with pc := .confirming id })

section Moves

variable {s s' : State} {a : Action} {id other : CopyId} {before after : Copy}

theorem copyStep_move {place : Place} (found : (s.copies.move other place)[id]? = some after)
    (step : ∀ copy, s.copies[other]? = some copy →
      PlaceStep s a other copy.queue copy.place place) : CopyStep s a s' id after := by
  obtain ⟨old, present, rfl⟩ := Registry.of_modify found
  split
  next same =>
    subst same
    exact .moved old present (step old present) rfl
  next => exact .moved old present .kept rfl

theorem place_dropChannel {lost : ChannelId → Bool} (place : Place) (queue : Queue) :
    PlaceStep s a id queue place (place.dropChannel s.now lost) := by
  cases place with
  | unacked handler channel settlement =>
    simp only [Place.dropChannel]
    split
    · exact .returned handler channel settlement rfl
    · exact .kept
  | _ => exact .kept

theorem copyStep_drop {lost : ChannelId → Bool}
    (found : (s.copies.dropChannels s.now lost)[id]? = some after) : CopyStep s a s' id after := by
  obtain ⟨old, present, rfl⟩ := Registry.of_map found
  exact .moved old present (place_dropChannel old.place old.queue) rfl

/-- A segment publishes or settles, never both. -/
theorem copyStep_segment {mover : HandlerId} {handler : Handler} {parent : Copy}
    {sendThrows : Bool} {ops : ChannelOps} {segment : Segment}
    (action : a = .handlerResumes mover sendThrows) (present : s.handlers[mover]? = some handler)
    (held : s.copies[handler.copy]? = some parent)
    (moved : Continues parent.message s.copies.length ops handler.pc segment)
    (handlers : s'.handlers = s.handlers.set mover { handler with pc := segment.pc })
    (found : (s.runSegment mover handler segment)[id]? = some after) :
    CopyStep s a s' id after := by
  unfold State.runSegment at found
  cases sent : segment.sent with
  | none =>
    simp only [sent] at found
    cases settles : segment.settled with
    | none =>
      simp only [settles] at found
      exact .moved after found .kept rfl
    | some settlement =>
      simp only [settles] at found
      obtain ⟨old, before, rfl⟩ := Registry.of_modify found
      split
      next same =>
        refine .moved old before ?_ rfl
        simp only
        unfold Place.settle
        split
        next handlerId channel unacked =>
          split
          -- the delivery is still this execution's
          next mine =>
            obtain ⟨rfl, rfl⟩ := mine
            exact .settled handlerId handler sendThrows parent.message ops segment settlement action
              present same.symm moved settles unacked
          next =>
            rw [unacked]
            exact .kept
        next => exact .kept
      next => exact .moved old before .kept rfl
  | some pair =>
    obtain ⟨queue, message⟩ := pair
    -- only a publish site sends, and it goes on to await the confirmation
    have site : Republishes parent.message handler.pc queue message ∧
        segment.settled = none ∧ segment.pc = .confirming s.copies.length := by
      generalize handler.pc = pc at moved
      cases moved with
      | republished pc queue' message' site =>
        cases sent
        exact ⟨site, rfl, rfl⟩
      | _ => cases sent
    obtain ⟨site, unsettled, waits⟩ := site
    simp only [sent, unsettled] at found
    rcases Registry.of_added found with old | ⟨fresh, made⟩
    · exact .moved after old .kept rfl
    · apply CopyStep.republished mover handler parent queue message fresh present held site made
      rw [handlers, fresh, ← waits]
      exact Registry.set_self present

end Moves

theorem copyStep {s s' : State} {a : Action} (taken : s.step a = some s') {id : CopyId}
    {after : Copy} (found : s'.copies[id]? = some after) : CopyStep s a s' id after := by
  obtain ⟨t, acts, rfl⟩ := State.step_cases taken
  cases acts with
  | published host channel sendThrows segment message resumed sent =>
    rcases Registry.of_added found with old | ⟨fresh, made⟩
    · exact .moved after old .kept rfl
    · have moved := OutboxPublisherService.resume_cases resumed
      rw [sent] at moved
      generalize segment.publisher.pc = pc at moved
      cases moved with
      | published event rest suspended =>
        exact .published host event rest channel fresh suspended made
  | stored other copy present wire =>
    refine copyStep_move found fun old same => ?_
    cases present.symm.trans same
    exact .stored wire
  | deadLettered other copy queue since ttl present waiting limit expired =>
    refine copyStep_move found fun old same => ?_
    cases present.symm.trans same
    exact .deadLettered queue since ttl waiting limit expired
  | delivered other copy since channel consumer orderId present waiting
  | refused other copy since channel consumer text present waiting =>
    refine copyStep_move found fun old same => ?_
    cases present.symm.trans same
    exact .delivered since channel waiting
  | acked other copy handler channel present settled =>
    refine copyStep_move found fun old same => ?_
    cases present.symm.trans same
    exact .acked handler channel settled
  | requeued other copy handler channel present settled =>
    refine copyStep_move found fun old same => ?_
    cases present.symm.trans same
    exact .returned handler channel _ settled
  | lost => exact copyStep_drop found
  | crashed => exact copyStep_drop found
  | handlerResumed mover handler sendThrows copy segment present held resumed =>
    exact copyStep_segment rfl present held (resume_cases resumed) rfl found
  | _ => exact .moved after found .kept rfl

theorem runSegment_keeps {s : State} {mover : HandlerId} {handler : Handler} {segment : Segment}
    {id : CopyId} {before : Copy} (found : s.copies[id]? = some before) :
    ∃ place, (s.runSegment mover handler segment)[id]? = some { before with place } := by
  have settled (copies : Copies) (present : copies[id]? = some before) (settlement : Settlement) :
      ∃ place, (copies.settle handler.copy mover handler.channel settlement)[id]? =
        some { before with place } := by
    unfold Copies.settle
    rw [Registry.modify_of present]
    split
    · exact ⟨_, rfl⟩
    · exact ⟨before.place, rfl⟩
  unfold State.runSegment
  cases segment.sent with
  | none =>
    cases segment.settled with
    | none => exact ⟨before.place, found⟩
    | some settlement => exact settled _ found settlement
  | some pair =>
    cases segment.settled with
    | none => exact ⟨before.place, Registry.added_of found⟩
    | some settlement => exact settled _ (Registry.added_of found) settlement

/-- Copies stay: only their place changes. -/
theorem copies_stay {s s' : State} {a : Action} (taken : s.step a = some s') {id : CopyId}
    {before : Copy} (found : s.copies[id]? = some before) :
    ∃ place, s'.copies[id]? = some { before with place } := by
  obtain ⟨t, acts, rfl⟩ := State.step_cases taken
  have moved (other : CopyId) (place : Place) :
      ∃ place', (s.copies.move other place)[id]? = some { before with place := place' } := by
    unfold Copies.move
    rw [Registry.modify_of found]
    split
    · exact ⟨place, rfl⟩
    · exact ⟨before.place, rfl⟩
  have dropped (lost : ChannelId → Bool) :
      ∃ place, (s.copies.dropChannels s.now lost)[id]? = some { before with place } := by
    refine ⟨before.place.dropChannel s.now lost, ?_⟩
    rw [Copies.dropChannels, List.getElem?_map, found]
    rfl
  cases acts with
  | published => exact ⟨before.place, Registry.added_of found⟩
  | stored other => exact moved other _
  | deadLettered other => exact moved other _
  | delivered other => exact moved other _
  | refused other => exact moved other _
  | acked other => exact moved other _
  | requeued other => exact moved other _
  | lost other => exact dropped _
  | crashed host => exact dropped _
  | handlerResumed => exact runSegment_keeps found
  | _ => exact ⟨before.place, found⟩

/-- What became of a copy. -/
theorem copy_placed {s s' : State} {a : Action} (taken : s.step a = some s') {id : CopyId}
    {before : Copy} (found : s.copies[id]? = some before) :
    ∃ place, s'.copies[id]? = some { before with place } ∧
      PlaceStep s a id before.queue before.place place := by
  obtain ⟨place, present⟩ := copies_stay taken found
  refine ⟨place, present, ?_⟩
  have old := Registry.lt_of_found found
  cases copyStep taken present with
  | moved same foundSame placed =>
    cases found.symm.trans foundSame
    exact placed
  -- a new copy's id is no old one
  | published _ _ _ _ fresh => exact absurd (fresh ▸ old) (Nat.lt_irrefl _)
  | republished _ _ _ _ _ fresh => exact absurd (fresh ▸ old) (Nat.lt_irrefl _)

/-! ### Stored copies -/

theorem stored_iff {s : State} {id : CopyId} :
    s.stored id = true ↔ ∃ copy, s.copies[id]? = some copy ∧ copy.place.stored = true := by
  unfold State.stored
  cases s.copies[id]? <;> simp

theorem PlaceStep.stays_stored {s : State} {a : Action} {id : CopyId} {queue : Queue}
    {place place' : Place} (step : PlaceStep s a id queue place place')
    (stored : place.stored = true) : place'.stored = true := by
  cases step with
  | kept => exact stored
  | _ => rfl

theorem stored_stays {s s' : State} {a : Action} (taken : s.step a = some s') {id : CopyId}
    (stored : s.stored id = true) : s'.stored id = true := by
  obtain ⟨copy, found, here⟩ := stored_iff.mp stored
  obtain ⟨place, present, step⟩ := copy_placed taken found
  exact stored_iff.mpr ⟨_, present, step.stays_stored here⟩

end FlashSaleLab
