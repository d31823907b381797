import FlashSaleLab.Consumer.Completion

/-!
# Remembering a completed notification

The success path stores the processed key with `set`, which logs a failure and resolves, so an
execution acks whether or not Redis has the key. Where a `set` took effect within the last TTL,
the key is there at the ack, and whoever checks it after that skips the message.
-/
namespace FlashSaleLab

open OrderNotificationConsumer Transition

/-- The processed key of `orderId` is stored in Redis now. -/
def Remembered (s : State) (orderId : Option Json) : Prop :=
  ∃ entry, s.redis.live s.now (processedKey orderId) = some entry

/-- A `set` of the processed key has taken effect less than its TTL ago. -/
def RecentlyStored (s : State) (orderId : Option Json) : Prop :=
  ∃ writer time, .processedStored orderId writer time ∈ s.history ∧ s.now < time + 86400000

/-- Redis executes the `set` of execution `id`. -/
def markTakesEffect (id : HandlerId) (s : State) (a : Action) : Prop :=
  a = .handlerSettles id (.failed false) →
    ∀ handler, s.handlers[id]? = some handler → handler.pc ≠ .marking

/-- Past its `set` the execution has stored the key itself. -/
def OwnMarkInv (id : HandlerId) (s : State) : Prop :=
  ∀ handler, s.handlers[id]? = some handler → handler.pc.afterMark = true →
    ∃ time, .processedStored handler.orderId id time ∈ s.history

/-- The check found the key, or failed: no way from here leads to the notification. -/
def HandlerPc.skipped : HandlerPc → Bool
  | .checked (.resolved (some text)) => text ≠ ""
  | .checked .rejected => true
  | .confirming _ => true
  | .confirmed _ => true
  | .returned => true
  | .rejected => true
  | .crashed => true
  | _ => false

/-- What is known of an execution whose check has not been executed. -/
def HandlerPc.unchecked : HandlerPc → Bool
  | .checking => true
  | .rejected => true
  | .crashed => true
  | _ => false

/-- The recorded time of a check tells whether it has been executed, and nobody notifies
before it. -/
structure CheckTimeInv (s : State) (id : HandlerId) (handler : Handler) : Prop where
  unchecked : handler.checkedAt = none → handler.pc.unchecked = true
  checking : handler.pc = .checking → handler.checkedAt = none
  notified : ∀ orderId time, .notified orderId id time ∈ s.history → handler.checkedAt ≠ none

/-- No execution notifies before it exists. -/
structure CheckTimesInv (s : State) : Prop where
  times : ∀ (id : HandlerId) (handler : Handler), s.handlers[id]? = some handler →
    CheckTimeInv s id handler
  known : ∀ orderId id time, .notified orderId id time ∈ s.history → id < s.handlers.length

/-- Execution `id` of `orderId` has not checked the key yet, checks it from `expiry` on, or
skips the message. -/
def SkipInv (orderId : Option Json) (id : HandlerId) (expiry : Time) (s : State) : Prop :=
  ∀ handler, s.handlers[id]? = some handler → handler.orderId = orderId →
    handler.checkedAt = none ∨ (∃ checked, handler.checkedAt = some checked ∧ expiry ≤ checked) ∨
      (handler.pc.skipped = true ∧ ∀ order time, .notified order id time ∉ s.history)

section Steps

variable {s s' : State} {a : Action} {orderId : Option Json} {id : HandlerId} {expiry : Time}

theorem remembered_iff (redis : RedisInv s) :
    Remembered s orderId ↔ RecentlyStored s orderId := by
  constructor
  · rintro ⟨entry, live⟩
    obtain ⟨present, inForce⟩ := ExpiringStore.live_eq_some_iff.mp live
    obtain ⟨_, time, noted, ends⟩ := redis.marks orderId entry present
    exact ⟨_, time, noted, ends ▸ inForce⟩
  · rintro ⟨writer, time, noted, recent⟩
    obtain ⟨_, entry, present, ends⟩ := redis.kept orderId writer time noted
    exact ⟨entry, ExpiringStore.live_eq_some_iff.mpr ⟨present, recent.trans_le ends⟩⟩

theorem OwnMarkInv.step (inv : OwnMarkInv id s) (taken : s.step a = some s')
    (effective : markTakesEffect id s a) : OwnMarkInv id s' := by
  intro after found past
  have remembers := (consumerStep taken).remembers
  cases (consumerStep taken).handler found with
  | kept old =>
    obtain ⟨time, noted⟩ := inv after old past
    exact ⟨time, remembers _ noted⟩
  | delivered copy since fresh held waiting start =>
    rcases start with ⟨checking, _⟩ | rejected
    · simp [checking, HandlerPc.afterMark] at past
    · simp [rejected, HandlerPc.afterMark] at past
  | settled handler result events action old moved history =>
    generalize s'.redis = store at moved
    cases moved with
    | markStored suspended =>
      refine ⟨s.now, ?_⟩
      rw [history]
      exact List.mem_cons_self
    | markLost suspended lost =>
      -- a call that was not executed failed at the caller
      cases result with
      | ok => cases lost
      | failed applied =>
        cases lost
        exact absurd suspended (effective action handler old)
    | deleted pc suspended | deleteLost pc suspended =>
      -- the `del` of the success path comes after the `set`, the other one after a failure
      rcases afterDel_cases suspended with ⟨before, rfl⟩ | ⟨_, _, rfl⟩
      · obtain ⟨time, noted⟩ := inv handler old (by rw [before]; rfl)
        exact ⟨time, remembers _ noted⟩
      · cases past
    | _ => cases past
  | resumed handler sendThrows copy segment action old held moved copies same =>
    subst same
    obtain ⟨time, noted⟩ := inv handler old (moved.marks.2 past)
    exact ⟨time, remembers _ noted⟩
  | crashed handler old same =>
    subst same
    cases pc : handler.pc <;> simp [pc, HandlerPc.crash, HandlerPc.afterMark] at past

/-- Only an execution that awaits its notification call is noted down for one. -/
theorem notified_cases (taken : s.step a = some s') {order : Option Json} {time : Time}
    (noted : .notified order id time ∈ s'.history) :
    .notified order id time ∈ s.history ∨
      ∃ handler, s.handlers[id]? = some handler ∧ handler.pc = .notifying := by
  rcases (consumerStep taken).history_cases rfl noted with
    old | ⟨mover, handler, result, after, events, _, found, moved, _, new⟩
  · exact Or.inl old
  · right
    generalize s'.redis = store at moved
    cases moved with
    | notified suspended =>
      cases List.mem_singleton.mp new
      exact ⟨handler, found, suspended⟩
    | _ => simp at new

theorem handlers_grow (taken : s.step a = some s') : s.handlers.length ≤ s'.handlers.length := by
  cases consumerStep taken with
  | idle handlers => rw [handlers]
  | delivered handler copy since held waiting fresh deliveredAt unchecked untried now handlers =>
    rw [handlers, List.length_append]
    exact Nat.le_add_right _ _
  | settled mover handler result after events action found moved now handlers =>
    rw [handlers, List.length_set]
  | resumed mover handler sendThrows copy segment action found held moved copies now handlers =>
    rw [handlers, List.length_set]
  | crashed host action now handlers => rw [handlers, List.length_map]

/-- An execution whose check has been executed stays so, whatever it does next. -/
theorem CheckTimeInv.past {handler after : Handler} (inv : CheckTimeInv s id handler)
    (past : handler.pc.unchecked = false) (checkedAt : after.checkedAt = handler.checkedAt)
    (moved : after.pc ≠ .checking) : CheckTimeInv s' id after := by
  have checked : after.checkedAt ≠ none := by
    rw [checkedAt]
    intro none
    rw [inv.unchecked none] at past
    cases past
  exact ⟨fun none => absurd none checked, fun checking => absurd checking moved,
    fun _ _ _ => checked⟩

theorem OrderNotificationConsumer.Continues.checked {message : Message} {fresh : CopyId}
    {ops : ChannelOps} {pc : HandlerPc} {segment : Segment}
    (moved : Continues message fresh ops pc segment) :
    pc.unchecked = false ∧ segment.pc ≠ .checking := by
  have sites {queue : Queue} {message' : Message} (site : Republishes message pc queue message') :
      pc.unchecked = false := by
    cases site with
    | redisExhausted pc failed | redisRetry pc failed => cases failed <;> rfl
    | _ => rfl
  cases moved with
  | republished pc queue message' site | sendFailed pc queue message' site =>
    exact ⟨sites site, by simp⟩
  | counterThrew pc reading =>
    cases reading with
    | redisFailed pc failed => cases failed <;> exact ⟨rfl, by simp⟩
    | _ => exact ⟨rfl, by simp⟩
  | _ => exact ⟨rfl, by simp⟩

theorem CheckTimeInv.settled {handler after : Handler} {redis redis' : Redis} {now : Time}
    {stored : CopyId → Bool} {result : CallResult} {events : List Event}
    (inv : CheckTimeInv s id handler)
    (moved : Settles redis now id handler stored result redis' after events) :
    CheckTimeInv s' id after := by
  cases moved with
  | checked | checkFailed => exact ⟨by simp, by simp, by simp⟩
  | deleted pc suspended | deleteLost pc suspended =>
    rcases afterDel_cases suspended with ⟨before, rfl⟩ | ⟨_, before, rfl⟩
    · exact inv.past (by rw [before]; rfl) rfl (by simp)
    · exact inv.past (by rw [before]; rfl) rfl (by simp)
  | lockTaken reply suspended | lockRefused entry suspended | lockFailed suspended
  | notified suspended | notificationFailed suspended | markStored suspended
  | markLost suspended | confirmed copy suspended | unconfirmed copy suspended =>
    exact inv.past (by rw [suspended]; rfl) rfl (by simp)

theorem CheckTimesInv.step (inv : CheckTimesInv s) (taken : s.step a = some s') :
    CheckTimesInv s' where
  known order id time noted := by
    rcases notified_cases taken noted with old | ⟨handler, found, _⟩
    · exact (inv.known order id time old).trans_le (handlers_grow taken)
    · exact (Registry.lt_of_found found).trans_le (handlers_grow taken)
  times id after found := by
    cases (consumerStep taken).handler found with
    | kept old =>
      have before := inv.times id after old
      refine ⟨before.unchecked, before.checking, fun order time noted => ?_⟩
      rcases notified_cases taken noted with noted | ⟨handler, present, notifying⟩
      · exact before.notified order time noted
      · -- it awaits its notification, so it has checked
        cases old.symm.trans present
        intro none
        have unchecked := before.unchecked none
        rw [notifying] at unchecked
        cases unchecked
    | delivered copy since fresh held waiting start deliveredAt unchecked =>
      -- its number is new, so nothing is noted down for it yet
      refine ⟨fun _ => ?_, fun _ => unchecked, fun order time noted => ?_⟩
      · rcases start with ⟨checking, _⟩ | rejected
        · rw [checking]; rfl
        · rw [rejected]; rfl
      · rcases notified_cases taken noted with noted | ⟨handler, present, _⟩
        · exact absurd (fresh ▸ inv.known order id time noted) (Nat.lt_irrefl _)
        · exact absurd (fresh ▸ Registry.lt_of_found present) (Nat.lt_irrefl _)
    | settled handler result events action old moved =>
      exact (inv.times id handler old).settled moved
    | resumed handler sendThrows copy segment action old held moved copies same =>
      subst same
      exact (inv.times id handler old).past moved.checked.1 rfl moved.checked.2
    | crashed handler old same =>
      subst same
      have before := inv.times id handler old
      cases pc : handler.pc with
      | checking | rejected | crashed =>
        refine ⟨fun _ => ?_, fun checking => ?_, fun order time noted => ?_⟩
        · simp [HandlerPc.crash, HandlerPc.unchecked]
        · simp [HandlerPc.crash] at checking
        · rcases notified_cases taken noted with noted | ⟨other, present, notifying⟩
          · exact before.notified order time noted
          · cases old.symm.trans present
            cases pc.symm.trans notifying
      | _ => exact before.past (by rw [pc]; rfl) rfl (by simp [HandlerPc.crash])

theorem OrderNotificationConsumer.Continues.skipped {message : Message} {fresh : CopyId}
    {ops : ChannelOps} {pc : HandlerPc} {segment : Segment}
    (moved : Continues message fresh ops pc segment) (skipped : pc.skipped = true) :
    segment.pc.skipped = true := by
  cases moved with
  | unprocessed reply absent =>
    rcases absent with rfl | rfl
    · cases skipped
    · simp [HandlerPc.skipped] at skipped
  | _ => first | rfl | cases skipped

/-- A check executed while the key is stored finds it. -/
theorem SkipInv.checked {handler : Handler} (times : CheckTimesInv s) (redis : RedisInv s)
    {writer : HandlerId} {time : Time}
    (noted : .processedStored handler.orderId writer time ∈ s.history)
    (found : s.handlers[id]? = some handler) (suspended : handler.pc = .checking)
    (taken : s.step a = some s') :
    (time + 86400000 ≤ s.now ∨ (s.redis.get s.now (processedKey handler.orderId)).map (·.text) =
      some "true") ∧ ∀ order time, .notified order id time ∉ s'.history := by
  constructor
  · rcases Nat.lt_or_ge s.now (time + 86400000) with early | late
    · obtain ⟨entry, live⟩ := (remembered_iff redis).mpr ⟨writer, time, noted, early⟩
      right
      simp only [ExpiringStore.get, live, Option.map_some, Option.some.injEq]
      exact (redis.marks _ entry (ExpiringStore.live_eq_some_iff.mp live).1).1
    · exact Or.inl late
  · intro order time notified
    have known := times.times id handler found
    rcases notified_cases taken notified with old | ⟨other, present, notifying⟩
    · exact known.notified order time old (known.checking suspended)
    · cases found.symm.trans present
      cases suspended.symm.trans notifying

/-- What holds of an execution stays true in a step that leaves its check's time alone. -/
theorem SkipInv.kept {handler after : Handler} (inv : SkipInv orderId id expiry s)
    (found : s.handlers[id]? = some handler) (taken : s.step a = some s')
    (order : handler.orderId = orderId) (checkedAt : after.checkedAt = handler.checkedAt)
    (skipped : handler.pc.skipped = true → after.pc.skipped = true) :
    after.checkedAt = none ∨ (∃ checked, after.checkedAt = some checked ∧ expiry ≤ checked) ∨
      (after.pc.skipped = true ∧ ∀ order time, .notified order id time ∉ s'.history) := by
  rw [checkedAt]
  rcases inv handler found order with none | late | ⟨skips, quiet⟩
  · exact Or.inl none
  · exact Or.inr (Or.inl late)
  · refine Or.inr (Or.inr ⟨skipped skips, fun order time noted => ?_⟩)
    rcases notified_cases taken noted with old | ⟨other, present, notifying⟩
    · exact quiet order time old
    · cases found.symm.trans present
      rw [notifying] at skips
      cases skips

theorem SkipInv.settled {handler after : Handler} {result : CallResult} {events : List Event}
    (inv : SkipInv orderId id expiry s) (times : CheckTimesInv s) (redis : RedisInv s)
    {writer : HandlerId} {time : Time}
    (noted : .processedStored orderId writer time ∈ s.history) (ends : expiry = time + 86400000)
    (found : s.handlers[id]? = some handler) (taken : s.step a = some s')
    (moved : Settles s.redis s.now id handler s.stored result s'.redis after events)
    (order : handler.orderId = orderId) :
    after.checkedAt = none ∨ (∃ checked, after.checkedAt = some checked ∧ expiry ≤ checked) ∨
      (after.pc.skipped = true ∧ ∀ order time, .notified order id time ∉ s'.history) := by
  generalize s'.redis = store at moved
  cases moved with
  | checked suspended =>
    subst order
    obtain ⟨read | read, quiet⟩ := SkipInv.checked times redis noted found suspended taken
    · exact Or.inr (Or.inl ⟨s.now, rfl, ends ▸ read⟩)
    · exact Or.inr (Or.inr ⟨by simp [HandlerPc.skipped, read], quiet⟩)
  | checkFailed suspended =>
    subst order
    exact Or.inr (Or.inr ⟨rfl, (SkipInv.checked times redis noted found suspended taken).2⟩)
  | deleted pc suspended | deleteLost pc suspended =>
    refine inv.kept found taken order rfl fun skips => ?_
    rcases afterDel_cases suspended with ⟨before, _⟩ | ⟨_, before, _⟩
    · simp [before, HandlerPc.skipped] at skips
    · simp [before, HandlerPc.skipped] at skips
  | confirmed | unconfirmed => exact inv.kept found taken order rfl fun _ => rfl
  | lockTaken reply suspended | lockRefused entry suspended | lockFailed suspended
  | notified suspended | notificationFailed suspended | markStored suspended
  | markLost suspended =>
    refine inv.kept found taken order rfl fun skips => ?_
    simp [suspended, HandlerPc.skipped] at skips

theorem SkipInv.step (inv : SkipInv orderId id expiry s) (times : CheckTimesInv s)
    (redis : RedisInv s) {writer : HandlerId} {time : Time}
    (noted : .processedStored orderId writer time ∈ s.history) (ends : expiry = time + 86400000)
    (taken : s.step a = some s') : SkipInv orderId id expiry s' := by
  intro after found order
  cases (consumerStep taken).handler found with
  | kept old => exact inv.kept old taken order rfl fun skips => skips
  | delivered copy since fresh held waiting start deliveredAt unchecked => exact Or.inl unchecked
  | settled handler result events action old moved =>
    obtain ⟨_, _, sameOrder, _⟩ := moved.identity
    exact inv.settled times redis noted ends old taken moved (sameOrder ▸ order)
  | resumed handler sendThrows copy segment action old held moved copies same =>
    subst same
    exact inv.kept old taken order rfl moved.skipped
  | crashed handler old same =>
    subst same
    refine inv.kept old taken order rfl fun skips => ?_
    cases pc : handler.pc <;> simp [pc, HandlerPc.skipped, HandlerPc.crash] at skips ⊢

end Steps

theorem check_times_invariant {stock : Int → Option Nat} {allowed : State → Action → Prop}
    {s : State} (reachable : (system stock).Reachable allowed s) : CheckTimesInv s := by
  apply reachable.invariant (I := CheckTimesInv)
  · rintro s rfl
    constructor
    · intro id handler found
      cases found
    · intro orderId id time noted
      cases noted
  · intro s a s' _ inv _ taken
    exact inv.step taken

theorem own_mark_invariant {stock : Int → Option Nat} {id : HandlerId} {s : State}
    (reachable : (system stock).Reachable (markTakesEffect id) s) : OwnMarkInv id s := by
  apply reachable.invariant (I := OwnMarkInv id)
  · rintro s rfl handler found
    cases found
  · intro s a s' _ inv effective taken
    exact inv.step taken effective

/-- Who has not checked before the key was stored, and checks before it expires, skips. -/
theorem skips_while_stored {stock : Int → Option Nat} {s later : State}
    (reachable : (system stock).Reachable anyStep s)
    (steps : (system stock).Steps anyStep s later) {orderId : Option Json} {writer id : HandlerId}
    {time : Time} (noted : .processedStored orderId writer time ∈ s.history)
    (unchecked : ∀ handler, s.handlers[id]? = some handler → handler.checkedAt = none)
    {handler : Handler} (found : later.handlers[id]? = some handler)
    (order : handler.orderId = orderId) {checked : Time}
    (checkedAt : handler.checkedAt = some checked) (early : checked < time + 86400000) :
    handler.pc.skipped = true ∧ ∀ order time, .notified order id time ∉ later.history := by
  have kept : .processedStored orderId writer time ∈ later.history ∧
      SkipInv orderId id (time + 86400000) later := by
    refine reachable.stable (P := fun t => .processedStored orderId writer time ∈ t.history ∧
      SkipInv orderId id (time + 86400000) t) ?_ steps
      ⟨noted, fun handler found _ => Or.inl (unchecked handler found)⟩
    rintro t a t' between ⟨noted, skip⟩ _ taken
    exact ⟨(consumerStep taken).remembers _ noted,
      skip.step (check_times_invariant between) (redis_invariant between) noted rfl taken⟩
  -- it has checked, and before the key expired
  rcases kept.2 handler found order with none | ⟨late, same, past⟩ | skips
  · cases checkedAt.symm.trans none
  · cases checkedAt.symm.trans same
    exact absurd early (Nat.not_lt.mpr past)
  · exact skips

/-- Execution `id` acks on the success path: after its notification and its `del`. -/
structure SuccessAck (s s' : State) (id : HandlerId) (handler : Handler) : Prop where
  found : s.handlers[id]? = some handler
  released : handler.pc = .released
  taken : ∃ sendThrows, s.step (.handlerResumes id sendThrows) = some s' ∧
    (s.channelOps handler.channel sendThrows).ackThrows = false

/-- An ack changes neither Redis nor the clock. -/
theorem SuccessAck.keeps {s s' : State} {id : HandlerId} {handler : Handler}
    (acks : SuccessAck s s' id handler) :
    s'.redis = s.redis ∧ s'.now = s.now ∧ s'.history = s.history := by
  obtain ⟨sendThrows, taken, _⟩ := acks.taken
  obtain ⟨t, acts, rfl⟩ := State.step_cases taken
  cases acts with
  | handlerResumed => exact ⟨rfl, rfl, rfl⟩

/-- **When an acked notification is remembered.** At an ack on the success path the processed key
is in Redis exactly when some `set` of it took effect within the last 86400 s; unless the
execution's own `set` was lost, that one did. From there on every execution for the order that
checks before such a `set` expires skips the message and does not notify. -/
theorem acked_remembered (stock : Int → Option Nat) (s s' : State)
    (reachable : (system stock).Reachable anyStep s) (id : HandlerId) (handler : Handler)
    (acks : SuccessAck s s' id handler) :
    (Remembered s' handler.orderId ↔ RecentlyStored s handler.orderId) ∧
    ((system stock).Reachable (markTakesEffect id) s →
      ∃ time, .processedStored handler.orderId id time ∈ s.history) ∧
    (∀ writer time, .processedStored handler.orderId writer time ∈ s.history →
      ∀ later, (system stock).Steps anyStep s' later →
      ∀ (other : HandlerId) (peer : Handler) (checked : Time),
        (∀ before, s'.handlers[other]? = some before → before.checkedAt = none) →
        later.handlers[other]? = some peer → peer.orderId = handler.orderId →
        peer.checkedAt = some checked → checked < time + 86400000 →
        peer.pc.skipped = true ∧ ∀ order time, .notified order other time ∉ later.history) := by
  obtain ⟨redis, now, history⟩ := acks.keeps
  obtain ⟨sendThrows, taken, _⟩ := acks.taken
  refine ⟨?_, fun effective => ?_, ?_⟩
  · unfold Remembered
    rw [redis, now]
    exact remembered_iff (redis_invariant reachable)
  · exact own_mark_invariant effective handler acks.found (by rw [acks.released]; rfl)
  · intro writer time noted later steps other peer checked unchecked found order checkedAt early
    exact skips_while_stored (.step reachable trivial taken) steps (history ▸ noted) unchecked
      found order checkedAt early

/-- The order is delivered, locked and notified; the `set` ends with `result`, the `del` follows. -/
def markEnds (result : CallResult) : State :=
  .after anyStep (fun _ => some 1)
    (publishedOrder ++
      [.deliver 0 1, .handlerSettles 0 .ok, .handlerResumes 0 false, .handlerSettles 0 .ok,
        .handlerResumes 0 false, .handlerSettles 0 .ok, .handlerResumes 0 false,
        .handlerSettles 0 result, .handlerResumes 0 false, .handlerSettles 0 .ok])

/-- The `set` took effect: the ack finds the key in Redis. -/
theorem storedMark_remembered :
    ∃ s' handler, SuccessAck (markEnds .ok) s' 0 handler ∧ Remembered s' handler.orderId := by
  have ready : ((markEnds .ok).handlers[0]?).map (fun handler => (handler.pc, handler.orderId,
      ((markEnds .ok).channelOps handler.channel false).ackThrows)) =
      some (.released, some (.number 1), false) := by decide +kernel
  obtain ⟨handler, found, same⟩ := Option.map_eq_some_iff.mp ready
  simp only [Prod.mk.injEq] at same
  obtain ⟨released, order, open_⟩ := same
  have possible : ((markEnds .ok).step (.handlerResumes 0 false)).isSome = true := by
    decide +kernel
  obtain ⟨s', taken⟩ := Option.isSome_iff_exists.mp possible
  have acks : SuccessAck (markEnds .ok) s' 0 handler := ⟨found, released, false, taken, open_⟩
  refine ⟨s', handler, acks, ?_⟩
  refine (acked_remembered _ _ s' (State.after_reachable ..) 0 handler acks).1.mpr ?_
  rw [order]
  exact ⟨0, 0, by decide +kernel, by decide +kernel⟩

/-- Redis fails during the `set`: the execution acks, and the key is not there. -/
theorem lostMark_forgotten :
    ¬∀ s s' id handler, (system fun _ => some 1).Reachable anyStep s →
      SuccessAck s s' id handler → Remembered s' handler.orderId := by
  intro claim
  have ready : ((markEnds (.failed false)).handlers[0]?).map (fun handler => (handler.pc,
      handler.orderId, ((markEnds (.failed false)).channelOps handler.channel false).ackThrows)) =
      some (.released, some (.number 1), false) := by decide +kernel
  obtain ⟨handler, found, same⟩ := Option.map_eq_some_iff.mp ready
  simp only [Prod.mk.injEq] at same
  obtain ⟨released, order, open_⟩ := same
  have gone : ((markEnds (.failed false)).step (.handlerResumes 0 false)).map (fun s =>
      (s.redis.live s.now (processedKey (some (.number 1)))).isNone) = some true := by
    decide +kernel
  obtain ⟨s', taken, absent⟩ := Option.map_eq_some_iff.mp gone
  have remembered := claim (markEnds (.failed false)) s' 0 handler (State.after_reachable ..)
    ⟨found, released, false, taken, open_⟩
  rw [order] at remembered
  obtain ⟨entry, live⟩ := remembered
  rw [live] at absent
  cases absent

end FlashSaleLab
