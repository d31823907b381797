import FlashSaleLab.Consumer.Deliveries
import FlashSaleLab.Outbox.SinglePublication

/-!
# Runs in which no delivery is disturbed

`undisturbed` rules out what gives a message back to its queue or publishes it again although
somebody has dealt with it: the loss of a channel with deliveries on it, a confirmation that fails,
and the recovery of an event that was published. Every other call may fail. A copy is then delivered
once, and its one execution holds it until it acks it.
-/
namespace FlashSaleLab

open OrderNotificationConsumer Transition

/-- A delivery is outstanding on one of the channels. -/
def State.delivering (s : State) (lost : ChannelId → Bool) : Prop :=
  ∃ copy ∈ s.copies, ∃ handler channel settlement,
    copy.place = .unacked handler channel settlement ∧ lost channel = true

/-- The execution awaits the confirmation of what it has published. -/
def State.confirming (s : State) (id : HandlerId) : Prop :=
  ∃ handler own, s.handlers[id]? = some handler ∧ handler.pc = .confirming own

def undisturbed (s : State) : Action → Prop
  | .loseChannel id => ¬s.delivering (· = id)
  | .crash host => ¬s.delivering (s.channelOf host)
  | .handlerSettles id result => s.confirming id → result = .ok
  | .handlerResumes _ sendThrows => sendThrows = false
  | .recoverStuckProcessing calledAt => ∀ row ∈ s.db.outboxEvents,
    PrismaOutboxRepository.stuck calledAt row = true → ¬Touched s row.id
  | _ => True

/-- Where the copy of an execution is: with the execution until that acks it. -/
def HeldAt (id : HandlerId) (handler : Handler) (place : Place) : Prop :=
  place = .unacked id handler.channel none ∨
    handler.pc = .returned ∧ (place = .unacked id handler.channel (some .ack) ∨ place = .gone)

def Held (copies : Copies) (id : HandlerId) (handler : Handler) : Prop :=
  ∃ copy : Copy, copies[handler.copy]? = some copy ∧ HeldAt id handler copy.place

structure HoldingInv (s : State) : Prop where
  held : ∀ (id : HandlerId) (handler : Handler), s.handlers[id]? = some handler →
    Held s.copies id handler
  once : ∀ (id other : HandlerId) (handler handler' : Handler), s.handlers[id]? = some handler →
    s.handlers[other]? = some handler' → handler.copy = handler'.copy → id = other
  confirmed : ∀ (id : HandlerId) (handler : Handler), s.handlers[id]? = some handler →
    handler.pc ≠ .confirmed .rejected

namespace OrderNotificationConsumer

/-- On an open channel, and unless a confirmation failed, a segment leaves the execution running or
acks. -/
theorem resume_smooth {message : Message} {fresh : CopyId} {retries processingRetries : Nat}
    {pc : HandlerPc} {segment : Segment} (counts : message.Counts retries processingRetries)
    (confirmed : pc ≠ .confirmed .rejected)
    (resumed : resume message fresh ⟨false, false, false⟩ pc = some segment) :
    (segment.settled = none ∧ segment.pc.ended = false ∧
      ∀ reply, segment.pc ≠ .confirmed reply) ∨ segment = ⟨none, some .ack, .returned⟩ := by
  cases resume_kind counts resumed with
  | waits next running unconfirmed => exact Or.inl ⟨rfl, running, unconfirmed⟩
  | acks => exact Or.inr rfl
  | gaveUp cause =>
    rcases cause with rejected | threw
    · exact absurd rejected confirmed
    · cases threw
  | publishes _ publishes =>
    obtain ⟨queue, message', rfl, _⟩ := publishes.sends rfl
    exact Or.inl ⟨rfl, rfl, by simp⟩

end OrderNotificationConsumer

section Steps

variable {stock : Int → Option Nat} {s s' : State} {a : Action} {id : HandlerId}
  {handler : Handler}

/-- Without deliveries on it the loss of a channel moves no copy. -/
theorem dropChannels_quiet {lost : ChannelId → Bool} (quiet : ¬s.delivering lost) :
    s.copies.dropChannels s.now lost = s.copies := by
  refine (List.map_congr_left fun copy member => ?_).trans (List.map_id' s.copies)
  cases place : copy.place with
  | unacked handler channel settlement =>
    have other : lost channel ≠ true := fun gone =>
      quiet ⟨copy, member, handler, channel, settlement, place, gone⟩
    simp only [Place.dropChannel, if_neg other, ← place]
  | _ => simp only [Place.dropChannel, ← place]

/-- An execution that has not returned holds its copy on an open channel of its own instance. -/
theorem HoldingInv.open_ (inv : HoldingInv s) (deliveries : DeliveriesInv s)
    (found : s.handlers[id]? = some handler) (running : handler.pc ≠ .returned) :
    ∃ copy : Copy, s.copies[handler.copy]? = some copy ∧
      copy.place = .unacked id handler.channel none ∧
      s.channels[handler.channel]? = some ⟨handler.host, .opened⟩ := by
  obtain ⟨copy, present, unacked | ⟨returned, _⟩⟩ := inv.held id handler found
  · obtain ⟨own, held⟩ := deliveries _ copy id _ none present unacked
    cases held.found.symm.trans found
    exact ⟨copy, present, unacked, held.usable⟩
  · exact absurd returned running

/-- An instance that dies without deliveries takes no execution along. -/
theorem HoldingInv.crash_quiet (inv : HoldingInv s) (deliveries : DeliveriesInv s)
    {host : InstanceId} (quiet : ¬s.delivering (s.channelOf host)) :
    s.handlers.map (Handler.crash host) = s.handlers := by
  refine (List.map_congr_left fun handler member => ?_).trans (List.map_id' s.handlers)
  obtain ⟨id, bound, found⟩ := List.mem_iff_getElem.mp member
  have present : s.handlers[id]? = some handler := by rw [List.getElem?_eq_getElem bound, found]
  unfold Handler.crash
  split
  next own =>
    by_cases returned : handler.pc = .returned
    · rw [returned]
      cases handler
      cases returned
      rfl
    · obtain ⟨copy, held, unacked, usable⟩ := inv.open_ deliveries present returned
      refine absurd ⟨copy, List.mem_of_getElem? held, id, _, none, unacked, ?_⟩ quiet
      simp [State.channelOf, usable, own]
  · rfl

/-- A move of one copy that no execution minds. -/
theorem Held.move {copies : Copies} {other : CopyId} {given : Copy} {place : Place}
    (held : Held copies id handler) (found : copies[other]? = some given)
    (moves : HeldAt id handler given.place → HeldAt id handler place) :
    Held (copies.move other place) id handler := by
  obtain ⟨copy, present, at_⟩ := held
  refine ⟨_, Registry.modify_of present, ?_⟩
  split
  next same =>
    rw [same] at present
    cases found.symm.trans present
    exact moves at_
  · exact at_

theorem not_held_wire : ¬HeldAt id handler .wire := by
  rintro (unacked | ⟨_, unacked | gone⟩)
  · cases unacked
  · cases unacked
  · cases gone

/-- No execution holds a copy that waits in a queue. -/
theorem not_held_ready {queue : Queue} {since : Time} :
    ¬HeldAt id handler (.ready queue since) := by
  rintro (unacked | ⟨_, unacked | gone⟩)
  · cases unacked
  · cases unacked
  · cases gone

/-- What a segment publishes and settles, it does to other copies than those of others. -/
theorem Held.runSegment {other : HandlerId} {handler' : Handler} {segment : Segment}
    (held : Held s.copies other handler') (apart : handler'.copy ≠ handler.copy) :
    Held (s.runSegment id handler segment) other handler' := by
  obtain ⟨copy, present, at_⟩ := held
  obtain ⟨published, copies, settles⟩ := runSegment_cases s id handler segment
  have stays : published[handler'.copy]? = some copy := by
    rcases copies with rfl | ⟨queue, message, rfl⟩
    · exact present
    · exact Registry.added_of present
  refine ⟨copy, ?_, at_⟩
  rcases settles with ⟨_, same⟩ | ⟨settles, _, same⟩
  · rw [same]
    exact stays
  · rw [same]
    refine (Registry.modify_of stays).trans ?_
    rw [if_neg apart]

/-- Copies moved, and the executions are the old ones. -/
theorem HoldingInv.same (inv : HoldingInv s) (handlers : s'.handlers = s.handlers)
    (held : ∀ (id : HandlerId) (handler : Handler), Held s.copies id handler →
      Held s'.copies id handler) : HoldingInv s' where
  held id handler found := by
    rw [handlers] at found
    exact held id handler (inv.held id handler found)
  once := by
    rw [handlers]
    exact inv.once
  confirmed := by
    rw [handlers]
    exact inv.confirmed

theorem HoldingInv.delivered (inv : HoldingInv s) {given : Copy} {since : Time} {new : Handler}
    (found : s.copies[new.copy]? = some given)
    (waiting : given.place = .ready .notification since) (fresh : new.pc = .checking)
    (copies : s'.copies = s.copies.move new.copy (.unacked s.handlers.length new.channel none))
    (handlers : s'.handlers = s.handlers ++ [new]) : HoldingInv s' := by
  -- nobody had this copy before
  have unheld (id : HandlerId) (handler : Handler) (old : s.handlers[id]? = some handler) :
      handler.copy ≠ new.copy := by
    intro same
    obtain ⟨copy, present, at_⟩ := inv.held id handler old
    rw [same, found] at present
    cases present
    rw [waiting] at at_
    exact not_held_ready at_
  constructor
  · intro id handler present
    rw [handlers] at present
    rw [copies]
    rcases Registry.of_added present with old | ⟨rfl, rfl⟩
    · apply (inv.held id handler old).move found
      intro at_
      rw [waiting] at at_
      exact absurd at_ not_held_ready
    · exact ⟨_, Registry.modify_of found, by rw [if_pos rfl]; exact Or.inl rfl⟩
  · intro id other handler handler' first second same
    rw [handlers] at first second
    rcases Registry.of_added first with old | ⟨rfl, rfl⟩
    · rcases Registry.of_added second with old' | ⟨_, rfl⟩
      · exact inv.once id other handler handler' old old' same
      · exact absurd same (unheld id handler old)
    · rcases Registry.of_added second with old' | ⟨rfl, _⟩
      · exact absurd same.symm (unheld other handler' old')
      · rfl
  · intro id handler present
    rw [handlers] at present
    rcases Registry.of_added present with old | ⟨_, rfl⟩
    · exact inv.confirmed id handler old
    · simp [fresh]

/-- One execution is replaced by what it has become. -/
theorem HoldingInv.replaced (inv : HoldingInv s) (found : s.handlers[id]? = some handler)
    {after : Handler} (copy : after.copy = handler.copy) (confirmed : after.pc ≠ .confirmed .rejected)
    (handlers : s'.handlers = s.handlers.set id after) (own : Held s'.copies id after)
    (others : ∀ (other : HandlerId) (handler' : Handler), handler'.copy ≠ handler.copy →
      Held s.copies other handler' → Held s'.copies other handler') : HoldingInv s' := by
  constructor
  · intro other handler' present
    rw [handlers] at present
    rcases Registry.of_set present with ⟨rfl, rfl⟩ | ⟨ne, old⟩
    · exact own
    · apply others other handler' _ (inv.held other handler' old)
      exact fun same => ne (inv.once other id handler' handler old found same)
  · intro first second handler₁ handler₂ present present' same
    rw [handlers] at present present'
    rcases Registry.of_set present with ⟨rfl, rfl⟩ | ⟨_, old⟩ <;>
      rcases Registry.of_set present' with ⟨rfl, rfl⟩ | ⟨_, old'⟩
    · rfl
    · exact inv.once _ second handler handler₂ found old' (copy.symm.trans same)
    · exact inv.once first _ handler₁ handler old found (same.trans copy)
    · exact inv.once first second handler₁ handler₂ old old' same
  · intro other handler' present
    rw [handlers] at present
    rcases Registry.of_set present with ⟨_, rfl⟩ | ⟨_, old⟩
    · exact confirmed
    · exact inv.confirmed other handler' old

theorem HoldingInv.settled (inv : HoldingInv s) (found : s.handlers[id]? = some handler)
    {result : CallResult} {redis : Redis} {after : Handler}
    (settled : settle s.redis s.now id handler s.stored result = some (redis, after))
    (prompt : s.confirming id → result = .ok) (copies : s'.copies = s.copies)
    (handlers : s'.handlers = s.handlers.set id after) : HoldingInv s' := by
  have moved := settle_cases settled
  obtain ⟨_, copy, channel, _⟩ := moved.running
  generalize handlerEvents s.redis s.now id handler result = events at moved
  refine inv.replaced found copy ?_ handlers ?_ fun _ _ _ held => copies ▸ held
  · intro rejected
    cases moved with
    | unconfirmed own suspended =>
      have answered := prompt ⟨handler, own, found, suspended⟩
      simp [settle, suspended, answered] at settled
    | deleted pc suspended | deleteLost pc suspended =>
      rcases afterDel_cases suspended with ⟨_, rfl⟩ | ⟨_, _, rfl⟩
      · cases rejected
      · cases rejected
    | _ => cases rejected
  · obtain ⟨held, present, unacked | ⟨returned, _⟩⟩ := inv.held id handler found
    · rw [copies]
      exact ⟨held, copy ▸ present, Or.inl (channel ▸ unacked)⟩
    · simp [settle, returned] at settled

theorem HoldingInv.resumed (inv : HoldingInv s) (deliveries : DeliveriesInv s) (counted : CopiesInv s)
    (found : s.handlers[id]? = some handler) {copy : Copy} {segment : Segment}
    (held : s.copies[handler.copy]? = some copy)
    (resumed : resume copy.message s.copies.length (s.channelOps handler.channel false) handler.pc =
      some segment)
    (copies : s'.copies = s.runSegment id handler segment)
    (handlers : s'.handlers = s.handlers.set id { handler with pc := segment.pc }) :
    HoldingInv s' := by
  have running : handler.pc ≠ .returned := by
    intro returned
    rw [returned] at resumed
    cases resumed
  obtain ⟨_, present, unacked, usable⟩ := inv.open_ deliveries found running
  cases held.symm.trans present
  obtain ⟨retries, processingRetries, counts⟩ := counted.counts _ _ held
  rw [channelOps_open usable] at resumed
  have smooth := resume_smooth counts (inv.confirmed id handler found) resumed
  have same : { handler with pc := segment.pc }.copy = handler.copy := rfl
  refine inv.replaced found same ?_ handlers ?_ fun other handler' apart held' => ?_
  · rcases smooth with ⟨_, _, unconfirmed⟩ | rfl
    · exact unconfirmed _
    · simp
  · rw [copies]
    rcases smooth with ⟨unsettled, _⟩ | rfl
    · obtain ⟨place, stays⟩ : ∃ place, (s.runSegment id handler segment)[handler.copy]? =
          some { copy with place } ∧ place = copy.place := by
        unfold State.runSegment
        rw [unsettled]
        cases segment.sent with
        | none => exact ⟨_, held, rfl⟩
        | some pair => exact ⟨_, Registry.added_of held, rfl⟩
      exact ⟨_, stays.1, Or.inl (stays.2.trans unacked)⟩
    · -- the ack is on its way
      refine ⟨_, Registry.modify_of held, Or.inr ⟨rfl, Or.inl ?_⟩⟩
      rw [if_pos rfl]
      simp [Place.settle, unacked]
  · rw [copies]
    exact held'.runSegment apart

theorem HoldingInv.step (inv : HoldingInv s) (deliveries : DeliveriesInv s) (bodies : BodiesInv s)
    (counted : CopiesInv s) (permitted : undisturbed s a) (taken : s.step a = some s') :
    HoldingInv s' := by
  obtain ⟨t, acts, rfl⟩ := State.step_cases taken
  cases acts with
  | lost gone =>
    exact inv.same rfl fun id handler held => (dropChannels_quiet permitted).symm ▸ held
  | crashed host =>
    refine inv.same (inv.crash_quiet deliveries permitted) fun id handler held => ?_
    change Held (s.copies.dropChannels s.now (s.channelOf host)) id handler
    rw [dropChannels_quiet permitted]
    exact held
  | published =>
    refine inv.same rfl fun id handler held => ?_
    obtain ⟨copy, present, at_⟩ := held
    exact ⟨copy, Registry.added_of present, at_⟩
  | stored other given found wire =>
    refine inv.same rfl fun id handler held => held.move found fun at_ => ?_
    rw [wire] at at_
    exact absurd at_ not_held_wire
  | deadLettered other given queue since ttl found waiting =>
    refine inv.same rfl fun id handler held => held.move found fun at_ => ?_
    rw [waiting] at at_
    exact absurd at_ not_held_ready
  | acked other given mover channel found place =>
    refine inv.same rfl fun id handler held => held.move found fun at_ => ?_
    rw [place] at at_
    rcases at_ with unacked | ⟨returned, _⟩
    · cases unacked
    · exact Or.inr ⟨returned, Or.inr rfl⟩
  | requeued other given mover channel found place =>
    refine inv.same rfl fun id handler held => held.move found fun at_ => ?_
    rw [place] at at_
    rcases at_ with unacked | ⟨_, unacked | gone⟩
    · cases unacked
    · cases unacked
    · cases gone
  | delivered other given since channel consumer orderId found waiting =>
    exact inv.delivered found waiting rfl rfl rfl
  | refused other given since opened consumer text held waiting registered usable malformed =>
    obtain ⟨call, order, requestId, _, body⟩ := bodies other given held
    rw [body, start_body] at malformed
    cases malformed
  | handlerSettled other handler result redis after found settled =>
    exact inv.settled found settled permitted rfl rfl
  | handlerResumed other handler sendThrows copy segment found held resumed =>
    cases permitted
    exact inv.resumed deliveries counted found held resumed rfl rfl
  | _ => exact inv.same rfl fun _ _ held => held

end Steps

end FlashSaleLab
