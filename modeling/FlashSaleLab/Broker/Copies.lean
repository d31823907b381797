import FlashSaleLab.Broker.Steps

/-!
# Where copies come from and when they can be delivered

A copy is either a fresh publication of an event or what an execution published for the copy it
was given. A delivery comes no sooner than the TTL of the queue the copy was published to, and
nothing is ever delivered from the DLQ.
-/
namespace FlashSaleLab

open OrderNotificationConsumer Transition

/-- How long a message stays in the queue it was published to. -/
def Queue.delay (queue : Queue) : Time := queue.messageTtl.getD 0

/-- The copy has been in `order.notification` or could be there by now. -/
def Copy.deliverable (now : Time) (copy : Copy) : Prop :=
  copy.queue ≠ .dlq ∧ copy.publishedAt + copy.queue.delay ≤ now

/-- The copy is on the wire, waits in its queue, or is deliverable. -/
def Copy.Placed (now : Time) (copy : Copy) : Prop :=
  copy.publishedAt ≤ now ∧
    (copy.place = .wire ∨
      (∃ since, copy.place = .ready copy.queue since ∧ copy.publishedAt ≤ since) ∨
      copy.deliverable now)

/-- Where the copy comes from. -/
inductive Copy.Origin (copies : Copies) (id : CopyId) (copy : Copy) : Prop
  | published (orderId : Rat) (requestId : String) (source : copy.source = none)
      (queue : copy.queue = .notification)
      (message : copy.message = RabbitMqService.message orderId requestId)
  | republished (mover : HandlerId) (parent : CopyId) (before : Copy) (pc : HandlerPc)
      (source : copy.source = some (mover, parent)) (found : copies[parent]? = some before)
      (older : parent < id) (alive : before.queue ≠ .dlq)
      (site : Republishes before.message pc copy.queue copy.message)

def CopiesInv (s : State) : Prop :=
  ∀ (id : CopyId) (copy : Copy), s.copies[id]? = some copy →
    copy.Placed s.now ∧ copy.Origin s.copies id

/-- An execution was given a deliverable copy, and reads its `orderId` from it. -/
structure HandlerInv (s : State) (handler : Handler) : Prop where
  past : handler.deliveredAt ≤ s.now
  given : ∃ copy, s.copies[handler.copy]? = some copy ∧ copy.deliverable handler.deliveredAt ∧
    (handler.pc ≠ .rejected → start copy.message.content = .ok handler.orderId)

def HandlersInv (s : State) : Prop :=
  ∀ (id : HandlerId) (handler : Handler), s.handlers[id]? = some handler → HandlerInv s handler

section Steps

variable {s s' : State} {a : Action}

theorem Copy.deliverable.mono {copy : Copy} {now later : Time} (ready : copy.deliverable now)
    (le : now ≤ later) : copy.deliverable later :=
  ⟨ready.1, ready.2.trans le⟩

/-- A copy that waits in `order.notification` is deliverable. -/
theorem Copy.Placed.waiting {copy : Copy} {now since : Time} (placed : copy.Placed now)
    (waiting : copy.place = .ready .notification since) : copy.deliverable now := by
  rcases placed.2 with wire | ⟨_, own, _⟩ | ready
  · cases wire.symm.trans waiting
  · -- it was published there, and that queue has no delay
    have queue : copy.queue = .notification := (Place.ready.inj (own.symm.trans waiting)).1
    refine ⟨by rw [queue]; decide, ?_⟩
    rw [queue]
    exact placed.1
  · exact ready

theorem Copy.Placed.unacked {copy : Copy} {now : Time} {handler : HandlerId} {channel : ChannelId}
    {settlement : Option Settlement} (placed : copy.Placed now)
    (held : copy.place = .unacked handler channel settlement) : copy.deliverable now := by
  rcases placed.2 with wire | ⟨_, own, _⟩ | ready
  · cases wire.symm.trans held
  · cases own.symm.trans held
  · exact ready

theorem Copy.Placed.step {id : CopyId} {before : Copy} {place : Place}
    (placed : before.Placed s.now) (step : PlaceStep s a id before.queue before.place place) :
    ({ before with place } : Copy).Placed s.now := by
  refine ⟨placed.1, ?_⟩
  cases step with
  | kept => exact placed.2
  | stored wire => exact Or.inr (Or.inl ⟨s.now, rfl, placed.1⟩)
  | deadLettered from_ since ttl waiting limit expired =>
    right; right
    rcases placed.2 with wire | ⟨began, own, after⟩ | ready
    · cases wire.symm.trans waiting
    · -- the TTL that ended is its own queue's; the DLQ has none
      obtain ⟨queue, rfl⟩ := Place.ready.inj (waiting.symm.trans own)
      rw [queue] at limit
      constructor
      · intro dlq
        rw [show before.queue = .dlq from dlq] at limit
        cases limit
      · simp only [Queue.delay, limit, Option.getD_some]
        exact (Nat.add_le_add_right after ttl).trans expired
    · exact ready
  | delivered since channel waiting => exact Or.inr (Or.inr (placed.waiting waiting))
  | acked handler channel settled => exact Or.inr (Or.inr (placed.unacked settled))
  | returned handler channel settlement unacked =>
    exact Or.inr (Or.inr (placed.unacked unacked))
  | settled mover handler sendThrows message ops segment settlement action found own moved settles
      unacked =>
    exact Or.inr (Or.inr (placed.unacked unacked))

theorem Copy.Placed.mono {copy : Copy} {now later : Time} (placed : copy.Placed now)
    (le : now ≤ later) : copy.Placed later :=
  ⟨placed.1.trans le, placed.2.imp_right (Or.imp_right (·.mono le))⟩

/-- Only places of copies change, so origins stay. -/
theorem Copy.Origin.step {id : CopyId} {copy : Copy} (origin : copy.Origin s.copies id)
    (taken : s.step a = some s') : copy.Origin s'.copies id := by
  cases origin with
  | published orderId requestId source queue message =>
    exact .published orderId requestId source queue message
  | republished mover parent before pc source found older alive site =>
    obtain ⟨place, stays⟩ := copies_stay taken found
    exact .republished mover parent _ pc source stays older alive site

theorem CopiesInv.step (inv : CopiesInv s) (handlers : HandlersInv s)
    (taken : s.step a = some s') : CopiesInv s' := by
  intro id after found
  have later := State.clock_step taken
  cases copyStep taken found with
  | moved before old placed same =>
    obtain ⟨beforePlaced, origin⟩ := inv id before old
    have kept := (beforePlaced.step placed).mono later
    rw [← same] at kept
    refine ⟨kept, ?_⟩
    have stays := origin.step taken
    rw [same]
    cases stays with
    | published orderId requestId source queue message =>
      exact .published orderId requestId source queue message
    | republished mover parent first pc source present older alive site =>
      exact .republished mover parent first pc source present older alive site
  | published host event rest channel fresh suspended made =>
    subst made
    exact ⟨⟨later, Or.inl rfl⟩, .published _ _ rfl rfl rfl⟩
  | republished mover handler parent queue message fresh present held site made =>
    subst made
    refine ⟨⟨later, Or.inl rfl⟩, ?_⟩
    -- what an execution was given was deliverable, so it does not come from the DLQ
    obtain ⟨copy, given, ready, _⟩ := (handlers mover handler present).given
    cases held.symm.trans given
    obtain ⟨place, stays⟩ := copies_stay taken held
    exact .republished mover handler.copy _ handler.pc rfl stays
      (fresh ▸ Registry.lt_of_found held) ready.1 site

theorem not_rejected_crash {pc : HandlerPc} (crashed : pc.crash ≠ .rejected) : pc ≠ .rejected := by
  rintro rfl
  exact crashed rfl

theorem HandlerInv.step {handler after : Handler} (inv : HandlerInv s handler)
    (taken : s.step a = some s') (copy : after.copy = handler.copy)
    (deliveredAt : after.deliveredAt = handler.deliveredAt)
    (orderId : after.orderId = handler.orderId)
    (parsed : after.pc ≠ .rejected → handler.pc ≠ .rejected) : HandlerInv s' after := by
  obtain ⟨given, found, ready, reads⟩ := inv.given
  obtain ⟨place, stays⟩ := copies_stay taken found
  constructor
  · rw [deliveredAt]
    exact inv.past.trans (State.clock_step taken)
  · refine ⟨_, copy ▸ stays, ?_, fun accepted => ?_⟩
    · rw [deliveredAt]
      exact ready
    · rw [orderId]
      exact reads (parsed accepted)

theorem OrderNotificationConsumer.Settles.identity {redis redis' : Redis} {now : Time}
    {id : HandlerId} {handler after : Handler} {stored : CopyId → Bool} {result : CallResult}
    {events : List Event} (moved : Settles redis now id handler stored result redis' after events) :
    after.copy = handler.copy ∧ after.deliveredAt = handler.deliveredAt ∧
      after.orderId = handler.orderId ∧ handler.pc ≠ .rejected := by
  cases moved with
  | deleted pc suspended | deleteLost pc suspended =>
    refine ⟨rfl, rfl, rfl, fun rejected => ?_⟩
    rw [rejected] at suspended
    cases suspended
  | checked suspended | checkFailed suspended | lockTaken reply suspended
  | lockRefused entry suspended | lockFailed suspended | notified suspended
  | notificationFailed suspended | markStored suspended | markLost suspended
  | confirmed copy suspended | unconfirmed copy suspended =>
    exact ⟨rfl, rfl, rfl, by simp [suspended]⟩

theorem OrderNotificationConsumer.Republishes.not_rejected {message message' : Message}
    {pc : HandlerPc} {queue : Queue} (site : Republishes message pc queue message') :
    pc ≠ .rejected := by
  rintro rfl
  cases site with
  | redisExhausted _ failed | redisRetry _ failed => cases failed

theorem OrderNotificationConsumer.Continues.not_rejected {message : Message} {fresh : CopyId}
    {ops : ChannelOps} {pc : HandlerPc} {segment : Segment}
    (moved : Continues message fresh ops pc segment) : pc ≠ .rejected := by
  rintro rfl
  cases moved with
  | republished _ _ _ site | sendFailed _ _ _ site => exact site.not_rejected rfl
  | counterThrew _ reading =>
    cases reading with
    | redisFailed _ failed => cases failed

theorem HandlersInv.step (inv : HandlersInv s) (copies : CopiesInv s)
    (taken : s.step a = some s') : HandlersInv s' := by
  intro id after found
  cases (consumerStep taken).handler found with
  | kept old => exact (inv id after old).step taken rfl rfl rfl fun accepted => accepted
  | delivered copy since fresh held waiting start deliveredAt =>
    obtain ⟨place, stays⟩ := copies_stay taken held
    have ready := (copies _ copy held).1.waiting waiting
    constructor
    · rw [deliveredAt]
      exact State.clock_step taken
    · refine ⟨_, stays, deliveredAt ▸ ready, fun accepted => ?_⟩
      rcases start with ⟨_, parsed⟩ | rejected
      · exact parsed
      · exact absurd rejected accepted
  | settled handler result events action old moved =>
    obtain ⟨copy, deliveredAt, orderId, accepted⟩ := moved.identity
    exact (inv id handler old).step taken copy deliveredAt orderId fun _ => accepted
  | resumed handler sendThrows copy segment action old held moved copies same =>
    subst same
    exact (inv id handler old).step taken rfl rfl rfl fun _ => moved.not_rejected
  | crashed handler old same =>
    subst same
    exact (inv id handler old).step taken rfl rfl rfl not_rejected_crash

end Steps

theorem copies_invariant {stock : Int → Option Nat} {allowed : State → Action → Prop} {s : State}
    (reachable : (system stock).Reachable allowed s) : CopiesInv s ∧ HandlersInv s := by
  apply reachable.invariant (I := fun s => CopiesInv s ∧ HandlersInv s)
  · rintro s rfl
    constructor
    · intro id copy found
      cases found
    · intro id handler found
      cases found
  · rintro s a s' _ ⟨copies, handlers⟩ _ taken
    exact ⟨copies.step handlers taken, handlers.step copies taken⟩

end FlashSaleLab
