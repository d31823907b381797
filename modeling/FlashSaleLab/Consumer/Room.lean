import FlashSaleLab.Consumer.Deliveries
import FlashSaleLab.Outbox.Backlog

/-!
# Room for one more delivery

While an instance takes no deliveries and nothing fails, the executions it has started come to their
ends and their settlements arrive. Nothing is outstanding then, and what waits in
`order.notification` has waited.
-/
namespace FlashSaleLab

open OrderNotificationConsumer Transition

/-! ### What an execution publishes goes over its own channel -/

def ConfirmingInv (s : State) : Prop :=
  ∀ (id : HandlerId) (handler : Handler) (own : CopyId), s.handlers[id]? = some handler →
    handler.pc = .confirming own →
    ∃ copy : Copy, s.copies[own]? = some copy ∧ copy.channel = handler.channel

theorem ConfirmingInv.step {s s' : State} {a : Action} (inv : ConfirmingInv s)
    (taken : s.step a = some s') : ConfirmingInv s' := by
  intro id after own found suspended
  have kept {before : Handler} (old : s.handlers[id]? = some before)
      (waits : before.pc = .confirming own) (same : before.channel = after.channel) :
      ∃ copy : Copy, s'.copies[own]? = some copy ∧ copy.channel = after.channel := by
    obtain ⟨copy, present, channel⟩ := inv id before own old waits
    obtain ⟨place, stays⟩ := copies_stay taken present
    exact ⟨_, stays, channel.trans same⟩
  cases (consumerStep taken).handler found with
  | kept old => exact kept old suspended rfl
  | delivered copy since fresh held waiting start =>
    rcases start with ⟨checking, _⟩ | rejected
    · cases checking.symm.trans suspended
    · cases rejected.symm.trans suspended
  | settled handler result events action old moved =>
    generalize s'.redis = redis at moved
    cases moved with
    | deleted pc ended | deleteLost pc ended =>
      rcases afterDel_cases ended with ⟨_, rfl⟩ | ⟨_, _, rfl⟩
      · cases suspended
      · cases suspended
    | _ => cases suspended
  | resumed handler sendThrows copy segment action old held moved copies same =>
    subst same
    simp only at suspended
    generalize handler.pc = pc at moved
    cases moved with
    | republished pc queue message site =>
      cases suspended
      refine ⟨⟨message, queue, handler.channel, some (id, handler.copy), s.now, .wire⟩, ?_, rfl⟩
      rw [copies]
      simp [State.runSegment, Copies.publish]
    | _ => cases suspended
  | crashed handler old same =>
    subst same
    cases pc : handler.pc <;> simp [pc, HandlerPc.crash] at suspended

theorem confirming_invariant {stock : Int → Option Nat} {allowed : State → Action → Prop}
    {s : State} (reachable : (system stock).Reachable allowed s) : ConfirmingInv s := by
  apply reachable.invariant (I := ConfirmingInv)
  · rintro s rfl id handler own found
    cases found
  · exact fun s a s' _ inv _ taken => inv.step taken

/-! ### The moves of one execution -/

section Moves

variable {stock : Int → Option Nat} {lines : Lines} {s : State} {id : HandlerId}
  {handler : Handler} {copy : Copy}

theorem handler_settles {redis : Redis} {after : Handler}
    (found : s.handlers[id]? = some handler)
    (settled : settle s.redis s.now id handler s.stored .ok = some (redis, after)) :
    (system stock).CanReach (Serving lines) (fun s' => s'.handlers[id]? = some after ∧
      s'.copies = s.copies ∧ s'.channels = s.channels ∧ s'.redis = redis ∧ s'.now = s.now ∧
      s'.history = handlerEvents s.redis s.now id handler .ok ++ s.history) s := by
  have acted : ∃ t, s.act (.handlerSettles id .ok) = some t ∧ t.handlers[id]? = some after ∧
      t.copies = s.copies ∧ t.channels = s.channels ∧ t.redis = redis ∧ t.now = s.now ∧
      t.history = handlerEvents s.redis s.now id handler .ok ++ s.history := by
    simp only [State.act, State.handlerSettles, found, settled]
    exact ⟨_, rfl, Registry.set_self found, rfl, rfl, rfl, rfl, rfl⟩
  obtain ⟨t, acted, moved⟩ := acted
  exact reaches_act (a := .handlerSettles id .ok) ⟨rfl, trivial⟩ acted moved

theorem handler_resumes {segment : Segment} (found : s.handlers[id]? = some handler)
    (held : s.copies[handler.copy]? = some copy)
    (resumed : resume copy.message s.copies.length (s.channelOps handler.channel false)
      handler.pc = some segment) :
    (system stock).CanReach (Serving lines) (fun s' =>
      s'.handlers[id]? = some { handler with pc := segment.pc } ∧
      s'.copies = s.runSegment id handler segment ∧ s'.channels = s.channels ∧
      s'.redis = s.redis ∧ s'.now = s.now) s := by
  have acted : ∃ t, s.act (.handlerResumes id false) = some t ∧
      t.handlers[id]? = some { handler with pc := segment.pc } ∧
      t.copies = s.runSegment id handler segment ∧ t.channels = s.channels ∧
      t.redis = s.redis ∧ t.now = s.now := by
    simp only [State.act, State.handlerResumes, found, held, resumed]
    exact ⟨_, rfl, Registry.set_self found, rfl, rfl, rfl, rfl⟩
  obtain ⟨t, acted, moved⟩ := acted
  exact reaches_act (a := .handlerResumes id false) ⟨rfl, trivial⟩ acted moved

end Moves

/-! ### Room on a channel -/

/-- Bounds the awaits and segments that are left of an execution. -/
def HandlerPc.rank : HandlerPc → Nat
  | .checking => 14
  | .checked _ => 13
  | .locking => 12
  | .locked _ => 11
  | .notifying => 10
  | .notified _ => 9
  | .marking => 8
  | .marked => 7
  | .releasing => 6
  | .released => 5
  | .cleaningUp _ => 4
  | .cleanedUp => 3
  | .confirming _ => 2
  | .confirmed _ => 1
  | .returned | .rejected | .crashed => 0

/-- What is left of execution `id`. -/
def State.executionRank (s : State) : HandlerId → Nat :=
  Registry.sizeAt (fun handler => handler.pc.rank) 0 s.handlers

/-- If execution `id` works on this channel, it has ended. -/
def EndedOn (channel : ChannelId) (id : HandlerId) (s : State) : Prop :=
  ∀ handler, s.handlers[id]? = some handler → handler.channel = channel → handler.pc.ended = true

/-- Copy `id` is not outstanding on this channel. -/
def FreeOn (channel : ChannelId) (id : CopyId) (s : State) : Prop :=
  ∀ copy, s.copies[id]? = some copy → copy.place.outstandingOn channel = false

namespace OrderNotificationConsumer

section Ranks

variable {redis redis' : Redis} {now : Time} {id : HandlerId} {handler after : Handler}
  {stored : CopyId → Bool} {result : CallResult} {events : List Event} {message : Message}
  {fresh : CopyId} {ops : ChannelOps} {pc : HandlerPc} {segment : Segment}

theorem Settles.rank (settles : Settles redis now id handler stored result redis' after events) :
    after.pc.rank < handler.pc.rank := by
  cases settles with
  | deleted pc suspended | deleteLost pc suspended =>
    rcases afterDel_cases suspended with ⟨before, rfl⟩ | ⟨again, before, rfl⟩
    · simp [before, HandlerPc.rank]
    · simp [before, HandlerPc.rank]
  | checked suspended | checkFailed suspended | lockTaken reply suspended
  | lockRefused entry suspended | lockFailed suspended | notified suspended
  | notificationFailed suspended | markStored suspended | markLost suspended
  | confirmed copy suspended | unconfirmed copy suspended => simp [suspended, HandlerPc.rank]

theorem ReadsCounter.rank (reading : ReadsCounter pc) : 2 < pc.rank := by
  cases reading with
  | redisFailed pc failed => cases failed <;> simp [HandlerPc.rank]
  | lockNotAcquired | processingFailed => simp [HandlerPc.rank]

theorem Continues.rank (continues : Continues message fresh ops pc segment) :
    segment.pc.rank < pc.rank := by
  cases continues with
  | republished pc queue message' site => exact site.readsCounter.rank
  | sendFailed pc queue message' site =>
    exact Nat.lt_of_le_of_lt (Nat.zero_le 2) site.readsCounter.rank
  | counterThrew pc reading => exact Nat.lt_of_le_of_lt (Nat.zero_le 2) reading.rank
  | _ => simp [HandlerPc.rank]

/-- An execution that has not ended awaits a call or is in between; only the confirmation of what
is not stored yet cannot come. -/
theorem goes_on (redis : Redis) (now : Time) (id : HandlerId) (handler : Handler)
    (stored : CopyId → Bool) (result : CallResult) (message : Message) (fresh : CopyId)
    (ops : ChannelOps) (running : handler.pc.ended = false) :
    (settle redis now id handler stored result).isSome ∨
      (resume message fresh ops handler.pc).isSome ∨
      result = .ok ∧ ∃ copy, handler.pc = .confirming copy ∧ stored copy = false := by
  cases here : handler.pc with
  | checked reply =>
    right; left
    cases reply with
    | rejected => rfl
    | resolved answer =>
      cases answer with
      | none => rfl
      | some text =>
        simp only [resume]
        split
        · rfl
        · split <;> rfl
  | locked reply =>
    right; left
    cases reply with
    | rejected => rfl
    | resolved acquired => cases acquired <;> rfl
  | notified reply => right; left; cases reply <;> rfl
  | released =>
    right; left
    simp only [resume]
    split <;> rfl
  | marked | cleanedUp | confirmed reply => exact Or.inr (Or.inl rfl)
  | confirming copy =>
    cases result with
    | failed applied => exact Or.inl (by simp [settle, here])
    | ok =>
      cases present : stored copy with
      | true => exact Or.inl (by simp [settle, here, present])
      | false => exact Or.inr (Or.inr ⟨rfl, copy, rfl, present⟩)
  | returned | rejected | crashed =>
    rw [here] at running
    cases running
  | _ =>
    left
    simp [settle, here]

end Ranks

end OrderNotificationConsumer

section Room

variable {stock : Int → Option Nat} {lines : Lines} {s s' : State} {channel : ChannelId}
  {owner : InstanceId}

theorem EndedOn.step {a : Action} {id : HandlerId} (ended : EndedOn channel id s)
    (permitted : Serving lines.paused s a) (taken : s.step a = some s') :
    EndedOn channel id s' := by
  intro handler found own
  by_contra running
  obtain ⟨before, present, ran, _, same⟩ := running_before taken found (by simpa using running) (by
    rintro copy channel rfl
    cases permitted.carried.1)
  cases ran.symm.trans (ended before present (same.trans own))

theorem FreeOn.step {a : Action} {id : CopyId} (free : FreeOn channel id s)
    (permitted : Serving lines.paused s a) (taken : s.step a = some s') : FreeOn channel id s' := by
  intro copy found
  by_contra held
  obtain ⟨before, present, held'⟩ := outstanding_before taken found (by simpa using held) (by
    rintro copy channel rfl
    cases permitted.carried.1)
  cases held'.symm.trans (free before present)

/-- An execution that runs can do its next await or segment. -/
theorem execution_moves (reachable : (system stock).Reachable anyStep s) {id : HandlerId}
    {handler : Handler} (found : s.handlers[id]? = some handler)
    (usable : s.channels[handler.channel]? = some ⟨owner, .opened⟩)
    (running : handler.pc.ended = false) :
    (system stock).CanReach (Serving lines)
      (fun s' => s'.executionRank id < s.executionRank id) s := by
  have rank {later : State} {after : Handler} (moved : later.handlers[id]? = some after)
      (lower : after.pc.rank < handler.pc.rank) : later.executionRank id < s.executionRank id := by
    simpa only [State.executionRank, Registry.sizeAt, moved, found] using lower
  have settles {before : State} (same : before.handlers = s.handlers)
      (possible : (settle before.redis before.now id handler before.stored .ok).isSome) :
      (system stock).CanReach (Serving lines)
        (fun s' => s'.executionRank id < s.executionRank id) before := by
    obtain ⟨⟨redis, after⟩, settled⟩ := Option.isSome_iff_exists.mp possible
    apply (handler_settles (same ▸ found) settled).mono
    rintro later _ ⟨moved, _⟩
    exact rank moved (settle_cases settled).rank
  obtain ⟨copy, held, _⟩ := ((copies_invariant reachable).2 id handler found).given
  rcases goes_on s.redis s.now id handler s.stored .ok copy.message s.copies.length
    (s.channelOps handler.channel false) running with possible | possible | ⟨_, own, waits, missing⟩
  · exact settles rfl possible
  · obtain ⟨segment, resumed⟩ := Option.isSome_iff_exists.mp possible
    apply (handler_resumes found held resumed).mono
    rintro later _ ⟨moved, _⟩
    exact rank moved (resume_cases resumed).rank
  · -- what it has published is on the wire of its channel
    obtain ⟨published, present, channel⟩ :=
      confirming_invariant reachable id handler own found waits
    have wire : published.place = .wire := by
      cases place : published.place <;>
        simp [State.stored, present, place, Place.stored] at missing ⊢
    apply (broker_stores present wire (by simp [State.channelStatus, channel, usable])).trans
    rintro stored _ ⟨there, _, _, same⟩
    apply settles same
    have kept : stored.stored own = true := stored_iff.mpr ⟨_, there, rfl⟩
    simp [settle, waits, kept]

theorem execution_ends (reachable : (system stock).Reachable anyStep s)
    (usable : s.channels[channel]? = some ⟨owner, .opened⟩) (id : HandlerId) :
    (system stock).CanReach (Serving lines) (EndedOn channel id) s := by
  apply System.CanReach.measure fun s' => s'.executionRank id
  intro s' steps
  by_cases ended : EndedOn channel id s'
  · exact .here (Or.inl ended)
  · simp only [EndedOn, not_forall] at ended
    obtain ⟨handler, found, rfl, running⟩ := ended
    have moves : (system stock).CanReach (Serving lines)
        (fun later => later.executionRank id < s'.executionRank id) s' :=
      execution_moves (reachable_after reachable steps) found (channels_after steps usable)
        (by simpa using running)
    apply moves.mono
    exact fun later _ lower => Or.inr lower

/-- The instance takes no deliveries until all executions of the channel have ended. -/
theorem executions_end (reachable : (system stock).Reachable anyStep s)
    (usable : s.channels[channel]? = some ⟨owner, .opened⟩) :
    (system stock).CanReach (Serving lines.paused) (fun s' => ∀ id, EndedOn channel id s') s := by
  apply (System.CanReach.all (EndedOn channel) (List.range s.handlers.length)
    (fun id _ s a s' ended permitted taken => ended.step permitted taken) ?_).mono
  · intro later steps ended id
    by_cases old : id < s.handlers.length
    · exact ended id (List.mem_range.mpr old)
    · -- no execution has started
      have absent : EndedOn channel id s := by
        intro handler found
        exact absurd (Registry.lt_of_found found) old
      exact steps.stable (fun s a s' ended permitted taken => ended.step permitted taken) absent
  · intro id _ s' steps
    exact execution_ends (reachable_after reachable steps) (channels_after steps usable) id

/-- A settlement that is on its way arrives. -/
theorem settlement_arrives (reachable : (system stock).Reachable anyStep s)
    (ended : ∀ id, EndedOn channel id s) (id : CopyId) :
    (system stock).CanReach (Serving lines) (FreeOn channel id) s := by
  by_cases free : FreeOn channel id s
  · exact .here free
  simp only [FreeOn, not_forall] at free
  obtain ⟨copy, found, held⟩ := free
  have freed (place : Place) (elsewhere : place.outstandingOn channel = false)
      (received : s.copies.receiveSettlement id s.now = some (s.copies.move id place)) :
      (system stock).CanReach (Serving lines) (FreeOn channel id) s := by
    have acted : s.act (.receiveSettlement id) =
        some { s with copies := s.copies.move id place } := by
      simp [State.act, State.withCopies, received]
    apply reaches_act (a := .receiveSettlement id) ⟨trivial, trivial⟩ acted
    intro after present
    obtain ⟨before, _, rfl⟩ := Registry.of_modify present
    simpa using elsewhere
  cases place : copy.place with
  | unacked mover own settlement =>
    have here : own = channel := by simpa [place, Place.outstandingOn] using held
    subst here
    cases settlement with
    | none =>
      obtain ⟨handler, outstanding⟩ :=
        (deliveries_invariant reachable).1 id copy mover own none found place
      have over_ := ended mover handler outstanding.found outstanding.here
      cases (outstanding.running rfl).symm.trans over_
    | some settlement =>
      cases settlement with
      | ack => exact freed .gone rfl (by simp [Copies.receiveSettlement, found, place])
      | nackRequeue =>
        exact freed (.ready .notification s.now) rfl
          (by simp [Copies.receiveSettlement, found, place])
  | _ => simp [place, Place.outstandingOn] at held

/-- Without deliveries nothing stays outstanding on a channel that works. -/
theorem room_made (reachable : (system stock).Reachable anyStep s)
    (usable : s.channels[channel]? = some ⟨owner, .opened⟩) :
    (system stock).CanReach (Serving lines.paused) (fun s' => s'.outstanding channel = 0) s := by
  apply (executions_end reachable usable).trans
  intro ended first quiet
  apply (System.CanReach.all (FreeOn channel) (List.range ended.copies.length)
    (fun id _ s a s' free permitted taken => free.step permitted taken) ?_).mono
  · intro later steps free
    have none_ : ∀ id, FreeOn channel id later := by
      intro id
      by_cases old : id < ended.copies.length
      · exact free id (List.mem_range.mpr old)
      · have absent : FreeOn channel id ended := by
          intro copy found
          exact absurd (Registry.lt_of_found found) old
        exact steps.stable (fun s a s' free permitted taken => free.step permitted taken) absent
    apply List.countP_eq_zero.mpr
    intro copy member
    obtain ⟨id, found⟩ := List.getElem?_of_mem member
    simp [none_ id copy found]
  · intro id _ s' steps
    apply settlement_arrives (reachable_after reachable (first.trans steps))
    intro mover
    exact steps.stable (fun s a s' ended permitted taken => ended.step permitted taken)
      (quiet mover)

/-- What waits in `order.notification` waits until it is delivered. -/
theorem waiting_kept {id : CopyId} {copy : Copy} {since : Time}
    (waits : copy.place = .ready .notification since) (found : s.copies[id]? = some copy)
    (steps : (system stock).Steps (Serving lines.paused) s s') : s'.copies[id]? = some copy := by
  apply steps.stable (P := fun later => later.copies[id]? = some copy) ?_ found
  intro s a s' found permitted taken
  obtain ⟨place, present, moved⟩ := copy_placed taken found
  rw [waits] at moved
  cases moved with
  | kept => rwa [← waits] at present
  | delivered since channel =>
    -- a copy that is outstanding now was so before
    have now : Place.outstandingOn channel (.unacked s.handlers.length channel none) = true :=
      decide_eq_true rfl
    obtain ⟨before, old, held⟩ := outstanding_before taken present now (by
      rintro copy channel rfl
      cases permitted.carried.1)
    cases found.symm.trans old
    simp [waits, Place.outstandingOn] at held
  | stored wire => cases wire
  | deadLettered from_ since ttl waiting limit =>
    cases waiting
    cases limit
  | acked handler channel settled => cases settled
  | returned handler channel settlement unacked => cases unacked
  | settled _ _ _ _ _ _ _ _ _ _ _ _ unacked => cases unacked

end Room

end FlashSaleLab
