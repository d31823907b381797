import FlashSaleLab.Foundations.LeaseLock
import FlashSaleLab.Consumer.Steps

/-!
# The processing lock

The lock of an order is a lease of 30 s. A handler holds it from the reply that acquired it to
the end of its `del`. Dels that come within the lease keep the lock with its owner, so handlers
that stay within their leases exclude each other.
-/
namespace FlashSaleLab

open OrderNotificationConsumer Transition

/-- Between a successful `setIfAbsentStrict` on the lock and the end of the `del` of it. -/
def HandlerPc.holding : HandlerPc → Bool
  | .locked (.resolved true) => true
  | .notifying => true
  | .notified _ => true
  | .marking => true
  | .marked => true
  | .releasing => true
  | .cleaningUp false => true
  | _ => false

namespace State

/-- When execution `id` took the lock of `orderId`, while it holds it. -/
def holds (s : State) (orderId : Option Json) (id : HandlerId) : Option Time :=
  (s.handlers[id]?).bind fun handler =>
    if handler.orderId = orderId ∧ handler.pc.holding = true then handler.triedAt else none

/-- Who wrote the lock's entry, and when it ends. -/
def lockEntry (s : State) (orderId : Option Json) : Option (HandlerId × Time) :=
  (s.redis (processingKey orderId)).map fun entry => (entry.value.writer, entry.expiresAt)

end State

theorem holds_eq_some {s : State} {orderId : Option Json} {id : HandlerId} {time : Time} :
    s.holds orderId id = some time ↔ ∃ handler, s.handlers[id]? = some handler ∧
      handler.orderId = orderId ∧ handler.pc.holding = true ∧ handler.triedAt = some time := by
  unfold State.holds
  rw [Option.bind_eq_some_iff]
  constructor
  · rintro ⟨handler, found, taken⟩
    split at taken
    next both => exact ⟨handler, found, both.1, both.2, taken⟩
    · cases taken
  · rintro ⟨handler, found, same, holding, tried⟩
    exact ⟨handler, found, by rw [if_pos ⟨same, holding⟩]; exact tried⟩

/-- The lock of `orderId` is a lease. -/
def LockInv (orderId : Option Json) (s : State) : Prop :=
  LeaseLock 30000 s.now (s.lockEntry orderId) (s.holds orderId)

/-- A holder knows when it took the lock. -/
def TriedInv (s : State) : Prop :=
  ∀ (id : HandlerId) (handler : Handler), s.handlers[id]? = some handler →
    handler.pc.holding = true →
    ∃ time, handler.triedAt = some time

/-- The step's `del` of the lock, if it is one, meets no other handler within its lease. -/
def HarmlessDel (orderId : Option Json) (s : State) (a : Action) : Prop :=
  ∀ id result handler, a = .handlerSettles id result → s.handlers[id]? = some handler →
    handler.orderId = orderId → afterDel handler.pc ≠ none →
    ∀ other time, s.holds orderId other = some time → s.now < time + 30000 → other = id

section Steps

theorem holding_crash (pc : HandlerPc) : pc.crash.holding = false := by
  cases pc <;> rfl

theorem holding_afterDel {pc pc' : HandlerPc} (ended : afterDel pc = some pc') :
    pc'.holding = false := by
  rcases afterDel_cases ended with ⟨_, rfl⟩ | ⟨_, _, rfl⟩
  · rfl
  · rfl

/-- A segment never makes its execution a holder. -/
theorem OrderNotificationConsumer.Continues.holding {message : Message} {fresh : CopyId}
    {ops : ChannelOps} {pc : HandlerPc} {segment : Segment}
    (moved : Continues message fresh ops pc segment)
    (holding : segment.pc.holding = true) : pc.holding = true := by
  cases moved with
  | acquired | notified | notificationFailed | marked => rfl
  | _ => cases holding

/-- Only the lock attempt makes its execution a holder. -/
theorem OrderNotificationConsumer.Settles.holding {redis redis' : Redis} {now : Time}
    {id : HandlerId} {handler after : Handler} {stored : CopyId → Bool} {result : CallResult}
    {events : List Event}
    (moved : Settles redis now id handler stored result redis' after events) :
    after.orderId = handler.orderId ∧ (after.pc.holding = true →
      (handler.pc.holding = true ∧ after.triedAt = handler.triedAt) ∨
      (handler.pc = .locking ∧ after.triedAt = some now)) := by
  cases moved with
  | lockTaken reply suspended => exact ⟨rfl, fun _ => Or.inr ⟨suspended, rfl⟩⟩
  | notified suspended | notificationFailed suspended | markStored suspended
  | markLost suspended =>
    exact ⟨rfl, fun _ => Or.inl ⟨by rw [suspended]; rfl, rfl⟩⟩
  | deleted pc suspended | deleteLost pc suspended =>
    refine ⟨rfl, fun holding => ?_⟩
    rw [holding_afterDel suspended] at holding
    cases holding
  | _ => exact ⟨rfl, fun holding => by cases holding⟩

variable {s s' : State} {a : Action}

theorem holds_set {id other : HandlerId} {after : Handler} {orderId : Option Json} {time : Time}
    (handlers : s'.handlers = s.handlers.set id after)
    (held : s'.holds orderId other = some time) :
    (other = id ∧ after.orderId = orderId ∧ after.pc.holding = true ∧
      after.triedAt = some time) ∨ (other ≠ id ∧ s.holds orderId other = some time) := by
  obtain ⟨handler, found, same, holding, tried⟩ := holds_eq_some.mp held
  rw [handlers] at found
  rcases Registry.of_set found with ⟨moved, rfl⟩ | ⟨ne, old⟩
  · exact Or.inl ⟨moved, same, holding, tried⟩
  · exact Or.inr ⟨ne, holds_eq_some.mpr ⟨handler, old, same, holding, tried⟩⟩

theorem lockEntry_congr {orderId : Option Json}
    (same : s'.redis (processingKey orderId) = s.redis (processingKey orderId)) :
    s'.lockEntry orderId = s.lockEntry orderId := by
  unfold State.lockEntry
  rw [same]

theorem processingKey_injective {first second : Option Json}
    (same : processingKey first = processingKey second) : first = second := by
  simpa [processingKey] using same

theorem processingKey_ne_processedKey (first second : Option Json) :
    processingKey first ≠ processedKey second := by
  simp [processingKey, processedKey]

/-- A step that leaves the lock's entry alone and makes nobody its holder. -/
theorem LockInv.untouched {orderId : Option Json} (inv : LockInv orderId s) (later : s.now ≤ s'.now)
    (entry : s'.redis (processingKey orderId) = s.redis (processingKey orderId))
    (fewer : ∀ id time, s'.holds orderId id = some time → s.holds orderId id = some time) :
    LockInv orderId s' := by
  unfold LockInv
  rw [lockEntry_congr entry]
  exact inv.drop later fewer

/-- The lock attempt that wrote its entry: the attempt saw no live entry, so what it overwrote had
ended. -/
theorem LockInv.taken {id : HandlerId} {handler after : Handler}
    (inv : LockInv handler.orderId s)
    (free : s.redis.live s.now (processingKey handler.orderId) = none)
    (entry : s'.lockEntry handler.orderId = some (id, s.now + 30000)) (now : s'.now = s.now)
    (tried : after.triedAt = some s.now) (handlers : s'.handlers = s.handlers.set id after) :
    LockInv handler.orderId s' := by
  unfold LockInv
  rw [entry, now]
  refine inv.take id (fun owner until_ present => ?_) fun other time held => ?_
  · obtain ⟨old, stored, pair⟩ := Option.map_eq_some_iff.mp present
    cases pair
    exact ExpiringStore.live_eq_none_iff.mp free old stored
  · rcases holds_set handlers held with ⟨rfl, _, _, attempt⟩ | ⟨_, before⟩
    · exact Or.inl ⟨rfl, Option.some.inj (attempt.symm.trans tried)⟩
    · exact Or.inr before

/-- The `del` that was executed: where nobody else holds the lock in time, nobody misses the
entry. -/
theorem LockInv.deleted {id : HandlerId} {handler after : Handler}
    (alone : ∀ other time, s.holds handler.orderId other = some time →
      s.now < time + 30000 → other = id)
    (entry : s'.lockEntry handler.orderId = none) (now : s'.now = s.now)
    (given : after.pc.holding = false) (handlers : s'.handlers = s.handlers.set id after) :
    LockInv handler.orderId s' := by
  unfold LockInv
  rw [entry, now]
  refine LeaseLock.release id alone fun other time held => ?_
  rcases holds_set handlers held with ⟨_, _, holding, _⟩ | before
  · rw [given] at holding
    cases holding
  · exact before

theorem LockInv.settled {orderId : Option Json} (inv : LockInv orderId s) {id : HandlerId}
    {handler after : Handler} {result : CallResult} {events : List Event}
    (found : s.handlers[id]? = some handler)
    (moved : Settles s.redis s.now id handler s.stored result s'.redis after events)
    (now : s'.now = s.now) (handlers : s'.handlers = s.handlers.set id after)
    (harmless : HarmlessDel orderId s (.handlerSettles id result)) : LockInv orderId s' := by
  obtain ⟨sameOrder, holder⟩ := moved.holding
  -- unless this was the lock attempt, whoever holds the lock now held it before
  have kept (notTried : handler.pc ≠ .locking) (other : HandlerId) (time : Time)
      (held : s'.holds orderId other = some time) : s.holds orderId other = some time := by
    rcases holds_set handlers held with ⟨rfl, order, holding, tried⟩ | ⟨_, before⟩
    · rcases holder holding with ⟨held, same⟩ | ⟨tried, _⟩
      · exact holds_eq_some.mpr ⟨handler, found, sameOrder ▸ order, held, same ▸ tried⟩
      · exact absurd tried notTried
    · exact before
  have idle (redis : s'.redis (processingKey orderId) = s.redis (processingKey orderId))
      (notTried : handler.pc ≠ .locking) : LockInv orderId s' :=
    inv.untouched now.ge redis (kept notTried)
  generalize post : s'.redis = redis at moved idle
  cases moved with
  | lockTaken reply suspended free told =>
    by_cases same : handler.orderId = orderId
    · subst same
      have entry : s'.lockEntry handler.orderId = some (id, s.now + 30000) := by
        simp [State.lockEntry, post]
      exact inv.taken free entry now rfl handlers
    · have otherKey : processingKey orderId ≠ processingKey handler.orderId :=
        fun equal => same (processingKey_injective equal).symm
      refine inv.untouched now.ge (by simp [post, otherKey]) fun other time held => ?_
      rcases holds_set handlers held with ⟨_, order, _⟩ | ⟨_, before⟩
      · exact absurd order same
      · exact before
  | lockRefused entry suspended | lockFailed suspended =>
    refine inv.untouched now.ge (by rw [post]) fun other time held => ?_
    rcases holds_set handlers held with ⟨_, _, holding, _⟩ | ⟨_, before⟩
    · cases holding
    · exact before
  | deleted pc suspended =>
    by_cases same : handler.orderId = orderId
    · subst same
      have entry : s'.lockEntry handler.orderId = none := by simp [State.lockEntry, post]
      have alone : ∀ other time, s.holds handler.orderId other = some time →
          s.now < time + 30000 → other = id :=
        harmless id result handler rfl found rfl (by simp [suspended])
      exact .deleted alone entry now (holding_afterDel suspended) handlers
    · have otherKey : processingKey orderId ≠ processingKey handler.orderId :=
        fun equal => same (processingKey_injective equal).symm
      refine idle (by simp [otherKey]) fun tried => ?_
      rw [tried] at suspended
      cases suspended
  | markStored suspended =>
    exact idle (by simp [processingKey_ne_processedKey]) (by simp [suspended])
  | deleteLost pc suspended =>
    -- Redis keeps the entry, but the handler gives up the lock all the same
    refine idle rfl fun tried => ?_
    rw [tried] at suspended
    cases suspended
  | checked suspended | checkFailed suspended | notified suspended | notificationFailed suspended
  | markLost suspended => exact idle rfl (by simp [suspended])
  | confirmed copy suspended | unconfirmed copy suspended => exact idle rfl (by simp [suspended])

theorem LockInv.step {orderId : Option Json} (inv : LockInv orderId s) (later : s.now ≤ s'.now)
    (taken : ConsumerStep s a s') (harmless : HarmlessDel orderId s a) : LockInv orderId s' := by
  cases taken with
  | idle handlers redis =>
    refine inv.untouched later (by rw [redis]) fun id time held => ?_
    unfold State.holds at *
    rwa [handlers] at held
  | delivered handler copy since held waiting start deliveredAt unchecked untried now handlers
      redis =>
    refine inv.untouched later (by rw [redis]) fun id time held => ?_
    obtain ⟨other, found, same, holding, tried⟩ := holds_eq_some.mp held
    rw [handlers] at found
    rcases Registry.of_added found with old | ⟨_, rfl⟩
    · exact holds_eq_some.mpr ⟨other, old, same, holding, tried⟩
    · rw [untried] at tried
      cases tried
  | settled id handler result after events action found moved now handlers history =>
    exact inv.settled found moved now handlers (action ▸ harmless)
  | resumed id handler sendThrows copy segment action found held moved copies now handlers redis =>
    refine inv.untouched later (by rw [redis]) fun other time holder => ?_
    rcases holds_set handlers holder with ⟨rfl, order, holding, tried⟩ | ⟨_, before⟩
    · exact holds_eq_some.mpr ⟨handler, found, order, moved.holding holding, tried⟩
    · exact before
  | crashed host action now handlers redis =>
    -- the entry a crashed holder leaves behind stays until its TTL ends
    refine inv.untouched later (by rw [redis]) fun id time held => ?_
    obtain ⟨other, found, same, holding, tried⟩ := holds_eq_some.mp held
    rw [handlers] at found
    obtain ⟨before, old, rfl⟩ := Registry.of_map found
    unfold Handler.crash at same holding tried
    split at holding
    · rw [holding_crash] at holding
      cases holding
    next survives =>
      rw [if_neg survives] at same tried
      exact holds_eq_some.mpr ⟨before, old, same, holding, tried⟩

theorem TriedInv.step (inv : TriedInv s) (taken : ConsumerStep s a s') : TriedInv s' := by
  intro id after found holding
  cases taken.handler found with
  | kept old => exact inv id after old holding
  | delivered copy since fresh held waiting start =>
    rcases start with ⟨checking, _⟩ | rejected
    · rw [checking] at holding
      cases holding
    · rw [rejected] at holding
      cases holding
  | settled handler result events action old moved =>
    rcases moved.holding.2 holding with ⟨held, same⟩ | ⟨_, tried⟩
    · rw [same]
      exact inv id handler old held
    · exact ⟨_, tried⟩
  | resumed handler sendThrows copy segment action old held moved copies same =>
    subst same
    exact inv id handler old (moved.holding holding)
  | crashed handler old same =>
    subst same
    rw [holding_crash] at holding
    cases holding

end Steps

/-! ### Ownership -/

/-- A condition on the end of a handler's awaited call. -/
def Action.settling (condition : HandlerId → CallResult → Prop) : Action → Prop
  | .handlerSettles id result => condition id result
  | _ => True

instance (condition : HandlerId → CallResult → Prop)
    [∀ id result, Decidable (condition id result)] (a : Action) :
    Decidable (a.settling condition) := by
  unfold Action.settling
  split <;> infer_instance

/-- Less than 30 s have passed since the lock attempt. -/
def Handler.inLease (handler : Handler) (now : Time) : Prop :=
  ∃ time ∈ handler.triedAt, now < time + 30000

instance (handler : Handler) (now : Time) : Decidable (handler.inLease now) :=
  inferInstanceAs (Decidable (∃ time ∈ handler.triedAt, now < time + 30000))

/-- Each `del` of the lock of `orderId` is its handler's first one and comes within the handler's
lease. -/
def timelyDel (orderId : Option Json) (s : State) : Action → Prop :=
  Action.settling fun id _ => ∀ handler ∈ s.handlers[id]?, handler.orderId = orderId →
    afterDel handler.pc ≠ none → handler.pc ≠ .cleaningUp true ∧ handler.inLease s.now

instance (orderId : Option Json) (s : State) (a : Action) : Decidable (timelyDel orderId s a) :=
  inferInstanceAs (Decidable (Action.settling (fun id _ =>
    ∀ handler ∈ s.handlers[id]?, handler.orderId = orderId → afterDel handler.pc ≠ none →
      handler.pc ≠ .cleaningUp true ∧ handler.inLease s.now) a))

theorem holding_of_del {pc : HandlerPc} (deletes : afterDel pc ≠ none)
    (first : pc ≠ .cleaningUp true) : pc.holding = true := by
  cases pc with
  | releasing => rfl
  | cleaningUp again =>
    cases again with
    | true => exact absurd rfl first
    | false => rfl
  | _ => exact absurd rfl deletes

/-- A `del` within the lease of its handler meets nobody else's lease. -/
theorem LockInv.harmless {orderId : Option Json} {s : State} {a : Action} (inv : LockInv orderId s)
    (timely : timelyDel orderId s a) : HarmlessDel orderId s a := by
  intro id result handler action found order deletes other time held within
  subst action
  obtain ⟨first, mine, tried, inLease⟩ := timely handler found order deletes
  have own : s.holds orderId id = some mine :=
    holds_eq_some.mpr ⟨handler, found, order, holding_of_del deletes first, tried⟩
  exact inv.exclusive held within own inLease

theorem lock_initial (stock : Int → Option Nat) (orderId : Option Json) :
    LockInv orderId (.initial stock) :=
  .empty fun _ => rfl

theorem tried_initial (stock : Int → Option Nat) : TriedInv (.initial stock) := by
  intro id handler found
  cases found

theorem lock_invariant {stock : Int → Option Nat} {orderId : Option Json} {s : State}
    (reachable : (system stock).Reachable (timelyDel orderId) s) :
    LockInv orderId s ∧ TriedInv s := by
  apply reachable.invariant (I := fun s => LockInv orderId s ∧ TriedInv s)
  · rintro s rfl
    exact ⟨lock_initial stock orderId, tried_initial stock⟩
  · rintro s a s' _ ⟨lock, tried⟩ timely taken
    have step := consumerStep taken
    exact ⟨lock.step (State.clock_step taken) step (lock.harmless timely), tried.step step⟩

/-- **Lock ownership.** In a run whose dels of the lock of `orderId` are first ones within their
leases, a handler that is about to run its first `del` within its lease removes the entry it
wrote itself, and no other handler's lease on that lock is in force. -/
theorem del_removes_own (stock : Int → Option Nat) (orderId : Option Json) (s : State)
    (reachable : (system stock).Reachable (timelyDel orderId) s) (id : HandlerId)
    (handler : Handler) (found : s.handlers[id]? = some handler) (order : handler.orderId = orderId)
    (deletes : handler.pc = .releasing ∨ handler.pc = .cleaningUp false)
    (time : Time) (tried : handler.triedAt = some time) (within : s.now < time + 30000) :
    (s.redis (processingKey orderId)).map (fun entry => entry.value.writer) = some id ∧
    ∀ other peer, s.handlers[other]? = some peer → other ≠ id → peer.orderId = orderId →
      peer.pc.holding = true → ∃ since ∈ peer.triedAt, since + 30000 ≤ s.now := by
  obtain ⟨lock, attempts⟩ := lock_invariant reachable
  have holding : handler.pc.holding = true := by
    rcases deletes with releasing | cleaning
    · rw [releasing]; rfl
    · rw [cleaning]; rfl
  have own : s.holds orderId id = some time :=
    holds_eq_some.mpr ⟨handler, found, order, holding, tried⟩
  constructor
  · have entry := lock.owns id time own within
    obtain ⟨stored, present, pair⟩ := Option.map_eq_some_iff.mp entry
    rw [present]
    exact congrArg some (congrArg Prod.fst pair)
  · intro other peer foundPeer apart sameOrder peerHolds
    obtain ⟨since, peerTried⟩ := attempts other peer foundPeer peerHolds
    refine ⟨since, peerTried, ?_⟩
    by_contra inForce
    have theirs : s.holds orderId other = some since :=
      holds_eq_some.mpr ⟨peer, foundPeer, sameOrder, peerHolds, peerTried⟩
    exact apart (lock.exclusive theirs (Nat.not_le.mp inForce) own within)

/-- Handler 0 takes the delivery of copy 0 up to its notification. -/
def notifyFirst : List Action :=
  [.deliver 0 0, .handlerSettles 0 .ok, .handlerResumes 0 false, .handlerSettles 0 .ok,
    .handlerResumes 0 false]

/-- From the notification to the `del`. -/
def finishFirst : List Action :=
  [.handlerSettles 0 .ok, .handlerResumes 0 false, .handlerSettles 0 .ok,
    .handlerResumes 0 false]

/-- Handler 0 within its lease, about to release. -/
def punctual : State :=
  .after (timelyDel (some (.number 1))) (fun _ => some 1)
    (publishedOrder ++ notifyFirst ++ finishFirst)

def punctualHandler : Handler :=
  ⟨0, 0, 0, some (.number 1), .releasing, 0, some 0, some 0⟩

theorem punctual_removes_own :
    (punctual.redis (processingKey (some (.number 1)))).map (fun entry => entry.value.writer) =
      some 0 := by
  have reachable : (system _).Reachable (timelyDel (some (.number 1))) punctual :=
    State.after_reachable ..
  exact (del_removes_own _ _ punctual reachable 0 punctualHandler (by decide +kernel) rfl
    (Or.inl rfl) 0 rfl (by decide +kernel)).1

/-- Handler 0's channel is lost during its notification, handler 1 gets the message, takes the
lock when 30 s are over and notifies, and then handler 0 comes to its `del`. -/
def overrun : State :=
  .after anyStep (fun _ => some 1)
    (publishedOrder ++ notifyFirst ++
      [.loseChannel 0, .deliver 0 1, .handlerSettles 1 .ok, .handlerResumes 1 false, .tick 30000,
        .handlerSettles 1 .ok, .handlerResumes 1 false] ++ finishFirst)

/-- A handler that overran its lease removes another live handler's lock. -/
theorem overrun_removes_foreign :
    ¬∀ (stock : Int → Option Nat) (s : State), (system stock).Reachable anyStep s →
      ∀ (id : HandlerId), ∀ handler ∈ s.handlers[id]?, afterDel handler.pc ≠ none →
        ∀ entry ∈ s.redis.live s.now (processingKey handler.orderId), entry.value.writer = id := by
  intro claim
  have reachable : (system _).Reachable anyStep overrun := State.after_reachable ..
  exact absurd (claim _ overrun reachable 0) (by decide +kernel)

/-! ### Exclusion -/

/-- No handler holds the lock of `orderId` for 30 s or longer. -/
def HoldersInTime (orderId : Option Json) (s : State) : Prop :=
  ∀ handler ∈ s.handlers, handler.orderId = orderId → handler.pc.holding = true →
    ∀ time ∈ handler.triedAt, s.now < time + 30000

instance (orderId : Option Json) (s : State) : Decidable (HoldersInTime orderId s) :=
  inferInstanceAs (Decidable (∀ handler ∈ s.handlers, handler.orderId = orderId →
    handler.pc.holding = true → ∀ time ∈ handler.triedAt, s.now < time + 30000))

/-- Holders within their leases exclude each other. -/
theorem holder_unique {orderId : Option Json} {s : State} (lock : LockInv orderId s)
    (tried : TriedInv s) (inTime : HoldersInTime orderId s) {first second : HandlerId}
    {handler peer : Handler} (found : s.handlers[first]? = some handler)
    (foundPeer : s.handlers[second]? = some peer) (order : handler.orderId = orderId)
    (peerOrder : peer.orderId = orderId) (holding : handler.pc.holding = true)
    (peerHolding : peer.pc.holding = true) : first = second := by
  obtain ⟨time, known⟩ := tried first handler found holding
  obtain ⟨since, peerKnown⟩ := tried second peer foundPeer peerHolding
  have mine : s.holds orderId first = some time :=
    holds_eq_some.mpr ⟨handler, found, order, holding, known⟩
  have theirs : s.holds orderId second = some since :=
    holds_eq_some.mpr ⟨peer, foundPeer, peerOrder, peerHolding, peerKnown⟩
  have inLease : s.now < time + 30000 :=
    inTime handler (List.mem_of_getElem? found) order holding time known
  have peerInLease : s.now < since + 30000 :=
    inTime peer (List.mem_of_getElem? foundPeer) peerOrder peerHolding since peerKnown
  exact lock.exclusive mine inLease theirs peerInLease

/-- The `channel.ack` after a release of the lock of `orderId` does not throw. -/
def ackHolds (orderId : Option Json) (s : State) : Action → Prop
  | .handlerResumes id _ => ∀ handler ∈ s.handlers[id]?, handler.orderId = orderId →
      handler.pc = .released → s.channelStatus handler.channel ≠ some .closed
  | _ => True

instance (orderId : Option Json) (s : State) (a : Action) : Decidable (ackHolds orderId s a) := by
  unfold ackHolds
  split <;> infer_instance

/-- Each handler that acquires the lock of `orderId` performs its `del` or crashes less than 30 s
later, and its `channel.ack` does not throw. -/
def promptStep (orderId : Option Json) (s : State) (a : Action) : Prop :=
  (∀ s' ∈ s.step a, HoldersInTime orderId s') ∧ ackHolds orderId s a

instance (orderId : Option Json) (s : State) (a : Action) : Decidable (promptStep orderId s a) :=
  inferInstanceAs (Decidable ((∀ s' ∈ s.step a, HoldersInTime orderId s') ∧ ackHolds orderId s a))

/-- No handler runs a second `del` of the lock of `orderId`. -/
def NoSecondDel (orderId : Option Json) (s : State) : Prop :=
  ∀ (id : HandlerId) (handler : Handler), s.handlers[id]? = some handler →
    handler.orderId = orderId → handler.pc ≠ .cleaningUp true

theorem NoSecondDel.step {orderId : Option Json} {s s' : State} {a : Action}
    (inv : NoSecondDel orderId s) (taken : ConsumerStep s a s') (ack : ackHolds orderId s a) :
    NoSecondDel orderId s' := by
  intro id after found order again
  cases taken.handler found with
  | kept old => exact inv id after old order again
  | delivered copy since fresh held waiting start =>
    rcases start with ⟨checking, _⟩ | rejected
    · cases checking.symm.trans again
    · cases rejected.symm.trans again
  | settled handler result events action old moved =>
    generalize s'.redis = redis at moved
    cases moved with
    | deleted pc suspended | deleteLost pc suspended =>
      rcases afterDel_cases suspended with ⟨_, released⟩ | ⟨_, _, cleaned⟩
      · cases released.symm.trans again
      · cases cleaned.symm.trans again
    | _ => cases again
  | resumed handler sendThrows copy segment action old held moved copies same =>
    subst same
    simp only at order again
    generalize suspended : handler.pc = pc at moved
    cases moved with
    | ackThrew threw =>
      subst action
      have opened := ack handler old order suspended
      simp [State.channelOps] at threw
      exact opened threw
    | _ => cases again
  | crashed handler old same =>
    subst same
    cases pc : handler.pc <;> simp [HandlerPc.crash, pc] at again

/-- What holds of one order's lock in every state of a prompt run. -/
structure PromptInv (orderId : Option Json) (s : State) : Prop where
  inTime : HoldersInTime orderId s
  once : NoSecondDel orderId s
  lock : LockInv orderId s
  tried : TriedInv s

/-- A handler in time deletes in time. -/
theorem PromptInv.timely {orderId : Option Json} {s : State} {a : Action}
    (inv : PromptInv orderId s) : timelyDel orderId s a := by
  cases a with
  | handlerSettles id result =>
    intro handler found order deletes
    have first := inv.once id handler found order
    have holding := holding_of_del deletes first
    obtain ⟨time, known⟩ := inv.tried id handler found holding
    have within := inv.inTime handler (List.mem_of_getElem? found) order holding time known
    exact ⟨first, time, known, within⟩
  | _ => trivial

theorem prompt_invariant {stock : Int → Option Nat} {orderId : Option Json} {s : State}
    (reachable : (system stock).Reachable (promptStep orderId) s) : PromptInv orderId s := by
  apply reachable.invariant (I := PromptInv orderId)
  · rintro s rfl
    refine ⟨?_, ?_, lock_initial stock orderId, tried_initial stock⟩
    · intro handler member
      cases member
    · intro id handler found
      cases found
  · rintro s a s' _ inv ⟨prompt, ack⟩ taken
    have step := consumerStep taken
    have harmless := inv.lock.harmless (inv.timely (a := a))
    exact ⟨prompt s' taken, inv.once.step step ack,
      inv.lock.step (State.clock_step taken) step harmless, inv.tried.step step⟩

/-- **Critical section exclusion.** In every run in which the holders of the lock of `orderId`
stay within their leases and their `channel.ack` does not throw, at most one live handler is
between acquiring the lock and the end of its `del`. -/
theorem critical_section_exclusive (stock : Int → Option Nat) (orderId : Option Json) (s : State)
    (reachable : (system stock).Reachable (promptStep orderId) s) (first second : HandlerId)
    (handler peer : Handler) (found : s.handlers[first]? = some handler)
    (foundPeer : s.handlers[second]? = some peer) (order : handler.orderId = orderId)
    (peerOrder : peer.orderId = orderId) (holding : handler.pc.holding = true)
    (peerHolding : peer.pc.holding = true) : first = second := by
  have inv := prompt_invariant reachable
  exact holder_unique inv.lock inv.tried inv.inTime found foundPeer order peerOrder holding
    peerHolding

/-- Handler 0 notifies while handler 1, with the same message redelivered, is refused. -/
def contended : State :=
  .after (promptStep (some (.number 1))) (fun _ => some 1)
    (publishedOrder ++ notifyFirst ++
      [.loseChannel 0, .deliver 0 1, .handlerSettles 1 .ok, .handlerResumes 1 false,
        .handlerSettles 1 .ok])

def contendedHandler : Handler :=
  ⟨0, 0, 0, some (.number 1), .notifying, 0, some 0, some 0⟩

theorem contended_exclusive :
    contended.handlers.map (·.pc) = [.notifying, .locked (.resolved false)] ∧
    ∀ (id : HandlerId) (peer : Handler), contended.handlers[id]? = some peer →
      peer.orderId = some (.number 1) → peer.pc.holding = true → 0 = id := by
  have reachable : (system _).Reachable (promptStep (some (.number 1))) contended :=
    State.after_reachable ..
  refine ⟨by decide +kernel, fun id peer found order holding => ?_⟩
  exact critical_section_exclusive _ _ contended reachable 0 id contendedHandler peer
    (by decide +kernel) found rfl order rfl holding

end FlashSaleLab
