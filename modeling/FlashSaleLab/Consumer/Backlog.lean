import FlashSaleLab.Consumer.Room
import FlashSaleLab.NoLoss

/-!
# A kept message can be worked off

A message the broker keeps leads on to its notification or into the DLQ, wherever it is now: it
waits in a queue, or in the hands of an execution at any of its awaits. Locks others left behind
are gone 30 s later.
-/
namespace FlashSaleLab

open OrderNotificationConsumer Transition

/-- A message of the order rests in the DLQ. -/
def Parked (s : State) (orderId : Option Json) : Prop :=
  ∃ (id : CopyId) (copy : Copy) (since : Time), s.copies[id]? = some copy ∧
    copy.place = .ready .dlq since ∧ start copy.message.content = .ok orderId

/-- The order has been notified, or is left to whoever looks after the DLQ. -/
def Handled (s : State) (orderId : Option Json) : Prop := Notified s orderId ∨ Parked s orderId

section Steps

variable {s s' : State} {a : Action} {orderId : Option Json}

/-- Nothing leaves the DLQ. -/
theorem Parked.mono (parked : Parked s orderId) (taken : s.step a = some s') :
    Parked s' orderId := by
  obtain ⟨id, copy, since, found, waits, names⟩ := parked
  obtain ⟨place, present, step⟩ := copy_placed taken found
  refine ⟨id, _, since, present, ?_, names⟩
  rw [waits] at step
  cases step with
  | kept => rfl
  | stored wire => cases wire
  | deadLettered from_ since ttl waiting limit =>
    cases waiting
    cases limit
  | delivered since channel waiting => cases waiting
  | acked handler channel settled => cases settled
  | returned handler channel settlement unacked => cases unacked
  | settled _ _ _ _ _ _ _ _ _ _ _ _ unacked => cases unacked

theorem Handled.mono (handled : Handled s orderId) (taken : s.step a = some s') :
    Handled s' orderId :=
  handled.imp (·.mono taken) (·.mono taken)

end Steps

/-! ### The way of one message -/

section Moves

variable {stock : Int → Option Nat} {lines : Lines} {s : State} {id : HandlerId}
  {handler : Handler} {copy : Copy} {orderId : Option Json}

/-- An execution that awaits the notification call completes it. -/
theorem notifying_completes (found : s.handlers[id]? = some handler)
    (order : handler.orderId = orderId) (suspended : handler.pc = .notifying) :
    (system stock).CanReach (Serving lines) (fun s' => Notified s' orderId) s := by
  have settled : settle s.redis s.now id handler s.stored .ok =
      some (s.redis, { handler with pc := .notified (.resolved ()) }) := by
    simp [settle, suspended, CallResult.settle]
  apply (handler_settles found settled).mono
  rintro later _ ⟨_, _, _, _, _, history⟩
  refine ⟨id, s.now, ?_⟩
  rw [history, ← order]
  simp [handlerEvents, suspended]

/-- An execution that has the lock goes on to the notification call. -/
theorem acquired_completes (found : s.handlers[id]? = some handler)
    (held : s.copies[handler.copy]? = some copy)
    (order : handler.orderId = orderId) (suspended : handler.pc = .locked (.resolved true)) :
    (system stock).CanReach (Serving lines) (fun s' => Notified s' orderId) s := by
  apply (handler_resumes found held (by rw [suspended]; rfl)).trans
  rintro later _ ⟨moved, _⟩
  exact notifying_completes moved order rfl

/-- Locks stored so far have expired 30 s from now. -/
theorem RedisInv.lock_expires (inv : RedisInv s) (orderId : Option Json) :
    s.redis.live (s.now + 30000) (processingKey orderId) = none := by
  rw [ExpiringStore.live_eq_none_iff]
  intro entry stored
  obtain ⟨time, past, _, ends⟩ := inv.locks orderId entry stored
  rw [ends]
  exact Nat.add_le_add_right past 30000

/-- An execution that awaits its lock attempt gets the lock if it waits long enough. -/
theorem locking_completes (reachable : (system stock).Reachable anyStep s)
    (found : s.handlers[id]? = some handler) (held : s.copies[handler.copy]? = some copy)
    (order : handler.orderId = orderId) (suspended : handler.pc = .locking) :
    (system stock).CanReach (Serving lines) (fun s' => Notified s' orderId) s := by
  apply act_then (a := .tick 30000) ⟨trivial, trivial⟩ rfl
  intro waited ticked _
  have now : waited.now = s.now + 30000 := by rw [ticked]
  have handlers : waited.handlers = s.handlers := by rw [ticked]
  have copies : waited.copies = s.copies := by rw [ticked]
  have redis : waited.redis = s.redis := by rw [ticked]
  have free := (redis_invariant reachable).lock_expires handler.orderId
  rw [← now, ← redis] at free
  have acquires : (RedisService.setIfAbsentStrict waited.redis waited.now
      (processingKey handler.orderId) ⟨"true", id⟩ 30 .ok).2 = .resolved true := by
    simp [RedisService.setIfAbsentStrict, ExpiringStore.setIfAbsent, free, CallResult.settle]
  apply (handler_settles (handlers ▸ found)
    (by simp only [settle, suspended, acquires]; rfl)).trans
  rintro locked _ ⟨moved, same, _⟩
  have stays : locked.copies[handler.copy]? = some copy := by rw [same, copies]; exact held
  exact acquired_completes moved stays order rfl

/-- The check found nothing, or found that somebody else has notified. -/
theorem checked_completes (reachable : (system stock).Reachable anyStep s)
    (found : s.handlers[id]? = some handler) (held : s.copies[handler.copy]? = some copy)
    (order : handler.orderId = orderId)
    {reply : Option String} (suspended : handler.pc = .checked (.resolved reply)) :
    (system stock).CanReach (Serving lines) (fun s' => Notified s' orderId) s := by
  cases reply with
  | some text =>
    exact .here (order ▸ ((acks_invariant reachable).1 id handler found).duplicate text suspended)
  | none =>
    apply (handler_resumes found held (by rw [suspended]; rfl)).trans
    rintro locking steps ⟨moved, same, _⟩
    have stays : locking.copies[handler.copy]? = some copy := by rw [same]; exact held
    exact locking_completes (reachable_after reachable steps) moved stays order rfl

/-- From its first await on. -/
theorem checking_completes (reachable : (system stock).Reachable anyStep s)
    (found : s.handlers[id]? = some handler) (held : s.copies[handler.copy]? = some copy)
    (order : handler.orderId = orderId) (suspended : handler.pc = .checking) :
    (system stock).CanReach (Serving lines) (fun s' => Notified s' orderId) s := by
  have settled : settle s.redis s.now id handler s.stored .ok = some (s.redis,
      { handler with
        checkedAt := some s.now
        pc := .checked (.resolved
          ((s.redis.get s.now (processedKey handler.orderId)).map (·.text))) }) := by
    simp [settle, suspended, RedisService.getStrict, CallResult.settle]
  apply (handler_settles found settled).trans
  rintro checked steps ⟨moved, same, _⟩
  have stays : checked.copies[handler.copy]? = some copy := by rw [same]; exact held
  exact checked_completes (reachable_after reachable steps) moved stays order rfl

/-- A message in `order.notification` is delivered to the instance and notified. -/
theorem delivery_completes (reachable : (system stock).Reachable anyStep s)
    (open_ : lines.Open s) {own : CopyId} {since : Time} (held : s.copies[own]? = some copy)
    (waits : copy.place = .ready .notification since)
    (names : start copy.message.content = .ok orderId) :
    (system stock).CanReach (Serving lines) (fun s' => Notified s' orderId) s := by
  obtain ⟨channel, consumes, usable⟩ := open_.consumer
  have room : (system stock).CanReach (Serving lines)
      (fun s' => s'.outstanding channel = 0 ∧ s'.copies[own]? = some copy) s := by
    have quiet : (system stock).CanReach (Serving lines.paused)
        (fun s' => s'.outstanding channel = 0 ∧ s'.copies[own]? = some copy) s :=
      (room_made reachable usable).mono fun _ steps free => ⟨free, waiting_kept waits held steps⟩
    exact quiet.weaken fun _ _ permitted => permitted.of_paused
  apply room.trans
  rintro before first ⟨free, held'⟩
  have usable' := channels_after first usable
  have delivered : before.act (.deliver own channel) = some { before with
      copies := before.copies.move own (.unacked before.handlers.length channel none)
      handlers := before.handlers ++
        [⟨lines.host, channel, own, orderId, .checking, before.now, none, none⟩] } := by
    simp [State.act, State.deliver, Copies.deliver, held', usable', waits, names]
  have limit : before.outstanding channel < SharedChannel.prefetch := by
    rw [free]
    decide
  apply act_then (a := .deliver own channel) ⟨trivial, consumes, limit⟩ delivered
  intro later arrived second
  have found : later.handlers[before.handlers.length]? =
      some ⟨lines.host, channel, own, orderId, .checking, before.now, none, none⟩ := by
    rw [arrived]
    exact List.getElem?_concat_length
  obtain ⟨copy', there⟩ : ∃ copy', later.copies[own]? = some copy' := by
    rw [arrived]
    exact ⟨_, Registry.modify_of held'⟩
  exact checking_completes (reachable_after reachable (first.trans second)) found there rfl rfl

/-- A message in any of the queues: a retry waits for its TTL, the DLQ is an end. -/
theorem waiting_completes (reachable : (system stock).Reachable anyStep s)
    (open_ : lines.Open s) {own : CopyId} {queue : Queue} {since : Time}
    (held : s.copies[own]? = some copy) (waits : copy.place = .ready queue since)
    (names : start copy.message.content = .ok orderId) :
    (system stock).CanReach (Serving lines) (fun s' => Handled s' orderId) s := by
  cases limit : queue.messageTtl with
  | none =>
    cases queue with
    | notification =>
      exact (delivery_completes reachable open_ held waits names).mono fun _ _ => Or.inl
    | dlq => exact .here (Or.inr ⟨own, copy, since, held, waits, names⟩)
    | retry => cases limit
    | processingRetry => cases limit
  | some ttl =>
    -- until the TTL has passed
    apply act_then (a := .tick (since + ttl)) ⟨trivial, trivial⟩ rfl
    intro expired ticked first
    have now : expired.now = s.now + (since + ttl) := by rw [ticked]
    have copies : expired.copies = s.copies := by rw [ticked]
    have over_ : since + ttl ≤ expired.now := now ▸ Nat.le_add_left _ _
    have moved : expired.act (.deadLetter own) = some { expired with
        copies := expired.copies.move own (.ready .notification expired.now) } := by
      simp [State.act, State.withCopies, Copies.deadLetter, copies, held, waits, limit, over_]
    apply act_then (a := .deadLetter own) ⟨trivial, trivial⟩ moved
    intro later returned second
    have held' : later.copies[own]? =
        some { copy with place := .ready .notification expired.now } := by
      simp only [returned, Copies.move]
      rw [copies, Registry.modify_of held, if_pos rfl]
    have steps := first.trans second
    apply (delivery_completes (reachable_after reachable steps) (open_.after steps) held' rfl
      names).mono
    exact fun _ _ => Or.inl

/-- From a publish site: the copy is stored, and waits in the queue it was sent to. -/
theorem site_completes (reachable : (system stock).Reachable anyStep s)
    (open_ : lines.Open s) {segment : Segment}
    (found : s.handlers[id]? = some handler) (held : s.copies[handler.copy]? = some copy)
    (usable : s.channels[handler.channel]? = some ⟨handler.host, .opened⟩)
    (names : start copy.message.content = .ok orderId)
    (resumed : resume copy.message s.copies.length ⟨false, false, false⟩ handler.pc = some segment)
    (publishes : Publishes copy.message s.copies.length ⟨false, false, false⟩ segment) :
    (system stock).CanReach (Serving lines) (fun s' => Handled s' orderId) s := by
  obtain ⟨queue, message, rfl, content⟩ := publishes.sends rfl
  rw [← channelOps_open usable] at resumed
  apply (handler_resumes found held resumed).trans
  rintro sent first ⟨_, copies, channels, _⟩
  have wire : sent.copies[s.copies.length]? = some ⟨message, queue, handler.channel,
      some (id, handler.copy), s.now, .wire⟩ := by
    rw [copies]
    simp [State.runSegment, Copies.publish]
  have sending : sent.channelStatus handler.channel = some .opened := by
    simp [State.channelStatus, channels, usable]
  apply (broker_stores wire rfl sending).trans
  rintro stored second ⟨present, _⟩
  have steps := first.trans second
  exact waiting_completes (reachable_after reachable steps) (open_.after steps) present rfl
    (by simp only [content]; exact names)

/-- The last catch block, from its `del` on. -/
theorem cleaningUp_completes (reachable : (system stock).Reachable anyStep s)
    (open_ : lines.Open s) (found : s.handlers[id]? = some handler)
    (held : s.copies[handler.copy]? = some copy)
    (usable : s.channels[handler.channel]? = some ⟨handler.host, .opened⟩)
    (names : start copy.message.content = .ok orderId) {again : Bool}
    (suspended : handler.pc = .cleaningUp again) :
    (system stock).CanReach (Serving lines) (fun s' => Handled s' orderId) s := by
  apply (handler_settles found (by simp only [settle, suspended]; rfl)).trans
  rintro cleaned steps ⟨moved, copies, channels, _⟩
  obtain ⟨_, _, retry, _⟩ := (copies_invariant reachable).1.counts _ _ held
  exact site_completes (reachable_after reachable steps) (open_.after steps) moved
    (by rw [copies]; exact held) (by rw [channels]; exact usable) names rfl
    (processingFailed_publishes retry)

/-- The wait for the confirmation was rejected: the delivery goes back to its queue. -/
theorem unconfirmed_completes (reachable : (system stock).Reachable anyStep s)
    (open_ : lines.Open s) (found : s.handlers[id]? = some handler)
    (held : s.copies[handler.copy]? = some copy)
    (usable : s.channels[handler.channel]? = some ⟨handler.host, .opened⟩)
    (place : copy.place = .unacked id handler.channel none)
    (names : start copy.message.content = .ok orderId)
    (suspended : handler.pc = .confirmed .rejected) :
    (system stock).CanReach (Serving lines) (fun s' => Handled s' orderId) s := by
  have resumed : resume copy.message s.copies.length (s.channelOps handler.channel false)
      handler.pc = some ⟨none, some .nackRequeue, .returned⟩ := by
    rw [channelOps_open usable, suspended]
    rfl
  apply (handler_resumes found held resumed).trans
  rintro nacked first ⟨_, copies, _⟩
  have unacked : nacked.copies[handler.copy]? =
      some { copy with place := .unacked id handler.channel (some .nackRequeue) } := by
    rw [copies]
    simp only [State.runSegment, Copies.settle]
    rw [Registry.modify_of held, if_pos rfl]
    simp [Place.settle, place]
  have received : nacked.act (.receiveSettlement handler.copy) = some { nacked with
      copies := nacked.copies.move handler.copy (.ready .notification nacked.now) } := by
    simp [State.act, State.withCopies, Copies.receiveSettlement, unacked]
  apply act_then (a := .receiveSettlement handler.copy) ⟨trivial, trivial⟩ received
  intro requeued returned second
  have held' : requeued.copies[handler.copy]? =
      some { copy with place := .ready .notification nacked.now } := by
    simp only [returned, Copies.move]
    rw [Registry.modify_of unacked, if_pos rfl]
  have steps := first.trans second
  apply (delivery_completes (reachable_after reachable steps) (open_.after steps) held' rfl
    names).mono
  exact fun _ _ => Or.inl

/-- A delivery that is not settled: its execution is somewhere on its way, and either finishes it
or rests on a copy that was stored later. -/
theorem unacked_completes (reachable : (system stock).Reachable anyStep s)
    (open_ : lines.Open s) {own : CopyId} {channel : ChannelId}
    (held : s.copies[own]? = some copy) (place : copy.place = .unacked id channel none)
    (names : start copy.message.content = .ok orderId)
    (later : ∀ (other : CopyId) (copy' : Copy), own < other → s.copies[other]? = some copy' →
      copy'.message.content = copy.message.content → copy'.place.stored = true →
      (system stock).CanReach (Serving lines) (fun s' => Handled s' orderId) s) :
    (system stock).CanReach (Serving lines) (fun s' => Handled s' orderId) s := by
  obtain ⟨handler, held'⟩ := (deliveries_invariant reachable).1 own copy id channel none held place
  obtain ⟨found, rfl, usable, rfl, running⟩ := held'
  have alive := running rfl
  have known := (acks_invariant reachable).1 id handler found
  obtain ⟨_, _, retry, processing⟩ := (copies_invariant reachable).1.counts _ _ held
  have order : handler.orderId = orderId := by
    obtain ⟨given, found', _, reads⟩ := ((copies_invariant reachable).2 id handler found).given
    cases held.symm.trans found'
    have caught := (deliveries_invariant reachable).2 id handler found
    simpa using (reads caught).symm.trans names
  have notified (past : handler.pc.toMark = true ∨ handler.pc.afterMark = true) :
      (system stock).CanReach (Serving lines) (fun s' => Handled s' orderId) s := by
    obtain ⟨time, noted⟩ := known.completed past
    exact .here (Or.inl ⟨id, time, order ▸ noted⟩)
  have completes (reach : (system stock).CanReach (Serving lines)
      (fun s' => Notified s' orderId) s) :
      (system stock).CanReach (Serving lines) (fun s' => Handled s' orderId) s :=
    reach.mono fun _ _ => Or.inl
  have site {segment : Segment}
      (resumed : resume copy.message s.copies.length ⟨false, false, false⟩ handler.pc =
        some segment)
      (publishes : Publishes copy.message s.copies.length ⟨false, false, false⟩ segment) :
      (system stock).CanReach (Serving lines) (fun s' => Handled s' orderId) s :=
    site_completes reachable open_ found held usable names resumed publishes
  -- what a copy that was stored later gives
  have stored (other : CopyId) (republished : Republished s handler.copy other)
      (present : s.stored other = true) :
      (system stock).CanReach (Serving lines) (fun s' => Handled s' orderId) s := by
    obtain ⟨before, after, foundBefore, foundAfter, younger, content⟩ := republished
    cases held.symm.trans foundBefore
    obtain ⟨_, same, here⟩ := stored_iff.mp present
    cases foundAfter.symm.trans same
    exact later other after younger foundAfter content here
  cases suspended : handler.pc with
  | checking => exact completes (checking_completes reachable found held order suspended)
  | checked reply =>
    cases reply with
    | resolved reply => exact completes (checked_completes reachable found held order suspended)
    | rejected => exact site (by rw [suspended]; rfl) (redisFailed_publishes retry)
  | locking => exact completes (locking_completes reachable found held order suspended)
  | locked reply =>
    cases reply with
    | resolved acquired =>
      cases acquired with
      | true => exact completes (acquired_completes found held order suspended)
      | false => exact site (by rw [suspended]; rfl) (lockNotAcquired_publishes processing)
    | rejected => exact site (by rw [suspended]; rfl) (redisFailed_publishes retry)
  | notifying => exact completes (notifying_completes found order suspended)
  | notified reply =>
    cases reply with
    | resolved _ => exact notified (by simp [suspended, HandlerPc.toMark])
    | rejected =>
      apply (handler_resumes found held (by rw [suspended]; rfl)).trans
      rintro cleaning steps ⟨moved, copies, channels, _⟩
      exact cleaningUp_completes (reachable_after reachable steps) (open_.after steps) moved
        (by rw [copies]; exact held) (by rw [channels]; exact usable) names rfl
  | marking => exact notified (by simp [suspended, HandlerPc.toMark])
  | marked => exact notified (by simp [suspended, HandlerPc.afterMark])
  | releasing => exact notified (by simp [suspended, HandlerPc.afterMark])
  | released => exact notified (by simp [suspended, HandlerPc.afterMark])
  | cleaningUp again =>
    exact cleaningUp_completes reachable open_ found held usable names suspended
  | cleanedUp => exact site (by rw [suspended]; rfl) (processingFailed_publishes retry)
  | confirming other =>
    obtain ⟨own', present, channel⟩ := confirming_invariant reachable id handler other found suspended
    by_cases here : own'.place.stored = true
    · exact stored other (known.confirming other suspended) (stored_iff.mpr ⟨own', present, here⟩)
    · -- the copy is on the wire of this very channel
      have wire : own'.place = .wire := by
        cases at_ : own'.place <;> simp [at_, Place.stored] at here ⊢
      obtain ⟨before, after, foundBefore, foundAfter, _, content⟩ := known.confirming other suspended
      cases held.symm.trans foundBefore
      cases present.symm.trans foundAfter
      apply (broker_stores present wire (by simp [State.channelStatus, channel, usable])).trans
      rintro now steps ⟨waits, _⟩
      exact waiting_completes (reachable_after reachable steps) (open_.after steps) waits rfl
        (by simp only [content]; exact names)
  | confirmed reply =>
    cases reply with
    | resolved _ =>
      obtain ⟨other, republished, present⟩ := known.confirmed suspended
      exact stored other republished present
    | rejected =>
      exact unconfirmed_completes reachable open_ found held usable place names suspended
  | returned => simp [suspended, HandlerPc.ended] at alive
  | rejected => simp [suspended, HandlerPc.ended] at alive
  | crashed => simp [suspended, HandlerPc.ended] at alive

/-- A safe message leads to its notification or into the DLQ. -/
theorem safe_completes (reachable : (system stock).Reachable anyStep s)
    (open_ : lines.Open s) (own : CopyId) (copy : Copy)
    (held : s.copies[own]? = some copy) (safe : copy.place.safe = true)
    (names : start copy.message.content = .ok orderId) :
    (system stock).CanReach (Serving lines) (fun s' => Handled s' orderId) s := by
  -- the younger a copy is, the fewer stored ones there are after it
  induction left : s.copies.length - own using Nat.strongRecOn generalizing own copy with
  | ind n ih =>
    subst left
    cases place : copy.place with
    | wire => simp [place, Place.safe] at safe
    | gone => simp [place, Place.safe] at safe
    | ready queue since => exact waiting_completes reachable open_ held place names
    | unacked id channel settlement =>
      cases settlement with
      | none =>
        apply unacked_completes reachable open_ held place names
        intro other copy' younger found content stored
        rcases kept_invariant reachable other copy' orderId found stored (content ▸ names) with
          notified | ⟨last, copy'', le, found', content', safe'⟩
        · exact .here (Or.inl notified)
        · have bound := Registry.lt_of_found found'
          have names' : start copy''.message.content = .ok orderId := by
            rw [content', content]
            exact names
          have after : own < last := Nat.lt_of_lt_of_le younger le
          have fewer : s.copies.length - last < s.copies.length - own :=
            Nat.sub_lt_sub_left (Nat.lt_trans after bound) after
          exact ih _ fewer last copy'' found' safe' names' rfl
      | some settlement =>
        cases settlement with
        | ack => simp [place, Place.safe] at safe
        | nackRequeue =>
          have received : s.act (.receiveSettlement own) = some { s with
              copies := s.copies.move own (.ready .notification s.now) } := by
            simp [State.act, State.withCopies, Copies.receiveSettlement, held, place]
          apply act_then (a := .receiveSettlement own) ⟨trivial, trivial⟩ received
          intro requeued returned steps
          have held' : requeued.copies[own]? =
              some { copy with place := .ready .notification s.now } := by
            simp only [returned, Copies.move]
            rw [Registry.modify_of held, if_pos rfl]
          apply (delivery_completes (reachable_after reachable steps) (open_.after steps)
            held' rfl names).mono
          exact fun _ _ => Or.inl

end Moves

end FlashSaleLab
