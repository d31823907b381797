import FlashSaleLab.Consumer.Completion
import FlashSaleLab.Consumer.Deliveries
import FlashSaleLab.Consumer.Prefixes
import FlashSaleLab.Consumer.Refusals
import FlashSaleLab.Consumer.Remembered
import Mathlib.Data.List.ReduceOption

/-!
# The executions of the system

`handleMessage` runs one execution from its start to its end, with the outcomes of its calls given.
In the system it runs between the steps of all others, and Redis, the broker and the clock decide
how its calls end. Whatever they decide are outcomes, so each execution of the system is one of
`handleMessage`.
-/
namespace FlashSaleLab

open OrderNotificationConsumer Transition

/-- The system numbers the copies that executions publish, `execute` does not. -/
def HandlerPc.unnumbered : HandlerPc → HandlerPc
  | .confirming _ => .confirming 0
  | pc => pc

namespace OrderNotificationConsumer

/-! ### What the system decides are outcomes -/

section Concurrent

variable {message : Message} {outcomes : Outcomes} {pc : HandlerPc} {deeds : List Deed}
  {redis redis' : Redis} {now : Time} {id : HandlerId} {handler after : Handler}
  {stored : CopyId → Bool} {result : CallResult} {events : List Event} {fresh : CopyId}
  {ops : ChannelOps} {segment : Segment}

/-- The outcomes by which an await ends in `after`. -/
def Outcomes.decide (outcomes : Outcomes) (after : HandlerPc) : Outcomes :=
  match after with
  | .checked reply => { outcomes with check := reply }
  | .locked reply => { outcomes with lock := reply }
  | .notified reply => { outcomes with notification := reply }
  | .confirmed reply => { outcomes with confirm := reply }
  | _ => outcomes

theorem Outcomes.decide_ops (after : HandlerPc) : (outcomes.decide after).ops = outcomes.ops := by
  cases after <;> rfl

/-- What ended before is not decided again. -/
theorem Outcomes.decide_earlier {after other : HandlerPc} (more : awaits after + 1 < awaits other) :
    (outcomes.decide after).settle other = outcomes.settle other := by
  cases after with
  | checked | locked | notified | confirmed =>
    cases other <;> first | rfl | simp [awaits] at more
  | _ => rfl

theorem Settles.decides (moved : Settles redis now id handler stored result redis' after events) :
    (outcomes.decide after.pc).settle handler.pc.unnumbered = some after.pc := by
  cases moved with
  | deleted pc suspended | deleteLost pc suspended =>
    rcases afterDel_cases suspended with ⟨before, rfl⟩ | ⟨again, before, rfl⟩ <;>
      rw [before] <;> rfl
  | checked suspended | checkFailed suspended | lockTaken reply suspended
  | lockRefused entry suspended | lockFailed suspended | notified suspended
  | notificationFailed suspended | markStored suspended | markLost suspended
  | confirmed copy suspended | unconfirmed copy suspended =>
    rw [suspended]
    rfl

/-- However the awaited call ends in the system, there are outcomes that say so. -/
theorem ComesTo.waits (comes : ComesTo message outcomes handler.pc.unnumbered deeds)
    (moved : Settles redis now id handler stored result redis' after events) :
    ∃ later, ComesTo message later after.pc (deeds ++ observed after.pc) := by
  have awaited : (outcomes.decide after.pc).settle handler.pc.unnumbered = some after.pc :=
    moved.decides
  have fewer := awaits_settle awaited
  have arrives : ComesTo message (outcomes.decide after.pc) handler.pc.unnumbered deeds :=
    comes.settles (Outcomes.decide_ops after.pc) fun other more =>
      Outcomes.decide_earlier (by omega)
  exact ⟨_, .settled _ after.pc deeds arrives awaited⟩

theorem publish_unnumbered (queue : Queue) (copy : Message) (fresh : CopyId) (ops : ChannelOps) :
    publish queue copy 0 ops = { publish queue copy fresh ops with
      pc := (publish queue copy fresh ops).pc.unnumbered } := by
  unfold publish
  split <;> rfl

/-- The number of a copy makes no difference to a segment. -/
theorem resume_unnumbered (goes : resume message fresh ops pc = some segment) :
    resume message 0 ops pc = some { segment with pc := segment.pc.unnumbered } := by
  have redis : redisFailed message 0 ops = { redisFailed message fresh ops with
      pc := (redisFailed message fresh ops).pc.unnumbered } := by
    unfold redisFailed
    split
    · rfl
    · split <;> exact publish_unnumbered ..
  have lock : lockNotAcquired message 0 ops = { lockNotAcquired message fresh ops with
      pc := (lockNotAcquired message fresh ops).pc.unnumbered } := by
    unfold lockNotAcquired
    split
    · rfl
    · split <;> exact publish_unnumbered ..
  have processing : processingFailed message 0 ops = { processingFailed message fresh ops with
      pc := (processingFailed message fresh ops).pc.unnumbered } := by
    unfold processingFailed
    split
    · rfl
    · split <;> exact publish_unnumbered ..
  unfold resume at goes
  split at goes
  next text =>
    split at goes
    next empty =>
      cases goes
      simp [resume, empty, HandlerPc.unnumbered]
    next nonempty =>
      split at goes
      next threw =>
        cases goes
        simp [resume, nonempty, threw, redis]
      next acked =>
        cases goes
        simp [resume, nonempty, acked, HandlerPc.unnumbered]
  next => cases goes; rfl
  next => cases goes; exact congrArg some redis
  next => cases goes; rfl
  next => cases goes; exact congrArg some lock
  next => cases goes; exact congrArg some redis
  next => cases goes; rfl
  next => cases goes; rfl
  next => cases goes; rfl
  next =>
    split at goes
    next threw =>
      cases goes
      simp [resume, threw, HandlerPc.unnumbered]
    next acked =>
      cases goes
      simp [resume, acked, HandlerPc.unnumbered]
  next => cases goes; exact congrArg some processing
  next reply =>
    cases goes
    simp only [resume, Option.some.injEq]
    unfold afterConfirm
    split
    · split <;> rfl
    · rfl
  next => cases goes

/-- A publish site whose `sendToQueue` throws sends nothing. -/
theorem Site.unsent {key : String} (site : Site message key fresh ops segment)
    (throws : ops.sendThrows = true) : segment.sent = none := by
  rcases site with ⟨_, _, rfl⟩ | ⟨n, queue, copy, _, rfl, _⟩
  · rfl
  · simp [publish, throws, nackAndReturn]

/-- A `sendToQueue` that did not throw. -/
theorem resume_sent (goes : resume message fresh ops pc = some segment) {sent : Queue × Message}
    (sends : segment.sent = some sent) : ops.sendThrows = false := by
  by_contra throws
  rw [Bool.not_eq_false] at throws
  have redis := (redisFailed_site message fresh ops).unsent throws
  have lock := (lockNotAcquired_site message fresh ops).unsent throws
  have processing := (processingFailed_site message fresh ops).unsent throws
  have silent : segment.sent = none := by
    unfold resume at goes
    -- one goal for each settled await, in the order of `resume`
    split at goes
    · split at goes
      · cases goes; rfl
      · split at goes
        · cases goes; exact redis
        · cases goes; rfl
    · cases goes; rfl
    · cases goes; exact redis
    · cases goes; rfl
    · cases goes; exact lock
    · cases goes; exact redis
    · cases goes; rfl
    · cases goes; rfl
    · cases goes; rfl
    · split at goes <;> cases goes <;> rfl
    · cases goes; exact processing
    · cases goes
      unfold afterConfirm
      split
      · split <;> rfl
      · rfl
    · cases goes
  cases silent.symm.trans sends

end Concurrent

/-- The deeds of a segment are what it does in the system. -/
theorem deedsIn_shows {message : Message} {fresh : CopyId} {ops : ChannelOps} {pc : HandlerPc}
    {segment : Segment} (goes : resume message fresh ops pc = some segment) :
    (sends (deedsIn message ops pc segment)).reduceOption = segment.sent.toList ∧
      settlements (deedsIn message ops pc segment) = segment.settled.toList := by
  have settled : settlements ((segment.settled.map Deed.settled).toList) =
      segment.settled.toList := by
    cases segment.settled <;> rfl
  have unsent : sends ((segment.settled.map Deed.settled).toList) = [] := by
    cases segment.settled <;> rfl
  unfold deedsIn
  cases sent : segment.sent with
  | none =>
    split
    · exact ⟨by simp [unsent], by simp [settled]⟩
    · exact ⟨by simp [unsent], by simp [settled]⟩
  | some pair =>
    have reached : sendsIn message ops pc = true := by
      have same : { ops with sendThrows := false } = ops := by
        rw [← resume_sent goes sent]
      simp [sendsIn, same, resume_unnumbered goes, sent]
    rw [reached]
    exact ⟨by simp [unsent], by simp [settled]⟩

/-- A segment calls nobody but its channel. -/
theorem deedsIn_channel {message : Message} {ops : ChannelOps} {pc : HandlerPc} {segment : Segment}
    {deed : Deed} (member : deed ∈ deedsIn message ops pc segment) :
    (∃ sent, deed = .sentToQueue sent) ∨ ∃ settlement, deed = .settled settlement := by
  rcases List.mem_append.mp member with sent | settled
  · split at sent
    · exact Or.inl ⟨_, List.mem_singleton.mp sent⟩
    · cases sent
  · rw [Option.mem_toList] at settled
    obtain ⟨settlement, _, rfl⟩ := Option.map_eq_some_iff.mp settled
    exact Or.inr ⟨settlement, rfl⟩

end OrderNotificationConsumer

/-- What an execution has published, as far as the copy shows. -/
def Copy.sentBy (id : HandlerId) (copy : Copy) : Option (Queue × Message) :=
  if copy.source.map (·.1) = some id then some (copy.queue, copy.message) else none

def State.sentBy (s : State) (id : HandlerId) : List (Queue × Message) :=
  s.copies.filterMap (Copy.sentBy id)

/-- The system shows these deeds of an execution: what it sent, whether it notified, how it has
settled its delivery while the broker has that outstanding, and what it found done by others. -/
structure Shows (s : State) (id : HandlerId) (handler : Handler) (copy : Copy) (deeds : List Deed) :
    Prop where
  sent : s.sentBy id = (sends deeds).reduceOption
  notified : .notified ∈ deeds ↔ ∃ time, .notified handler.orderId id time ∈ s.history
  settled : ∀ settlement, copy.place = .unacked id handler.channel settlement →
    settlement = (settlements deeds).head?
  processed : .foundProcessed ∈ deeds → Notified s handler.orderId
  confirmed : .confirmed ∈ deeds → ∃ own, Republished s handler.copy own ∧ s.stored own = true

/-- As far as it has come the execution is one of `handleMessage`. -/
def Follows (s : State) (id : HandlerId) (handler : Handler) : Prop :=
  ∃ copy outcomes pc deeds, s.copies[handler.copy]? = some copy ∧
    ComesTo copy.message outcomes pc deeds ∧ Shows s id handler copy deeds ∧
    (handler.pc = .crashed ∨ handler.pc.unnumbered = pc)

section Steps

variable {s s' : State} {a : Action} {id : HandlerId} {handler : Handler}

/-- Where a copy is does not matter. -/
theorem Copy.sentBy_placed {f : Copy → Copy}
    (placed : ∀ copy, ∃ place, f copy = { copy with place }) (copy : Copy) :
    (f copy).sentBy id = copy.sentBy id := by
  obtain ⟨place, same⟩ := placed copy
  rw [same]
  rfl

theorem sentBy_move (other : CopyId) (place : Place) :
    (s.copies.move other place).filterMap (Copy.sentBy id) = s.sentBy id :=
  Registry.filterMap_modify (Copy.sentBy_placed fun _ => ⟨place, rfl⟩) ..

theorem sentBy_drop (lost : ChannelId → Bool) :
    (s.copies.dropChannels s.now lost).filterMap (Copy.sentBy id) = s.sentBy id := by
  rw [Copies.dropChannels, List.filterMap_map]
  exact congrArg (List.filterMap · s.copies)
    (funext (Copy.sentBy_placed fun copy => ⟨copy.place.dropChannel s.now lost, rfl⟩))

theorem sentBy_publish (copies : Copies) (message : Message) (queue : Queue) (channel : ChannelId)
    (source : Option (HandlerId × CopyId)) (now : Time) :
    (copies.publish message queue channel source now).filterMap (Copy.sentBy id) =
      copies.filterMap (Copy.sentBy id) ++
        if source.map (·.1) = some id then [(queue, message)] else [] := by
  rw [Copies.publish, List.filterMap_append]
  congr 1
  by_cases own : source.map (·.1) = some id
  · simp only [List.filterMap_cons, List.filterMap_nil, Copy.sentBy, if_pos own]
  · simp only [List.filterMap_cons, List.filterMap_nil, Copy.sentBy, if_neg own]

theorem sentBy_segment (mover : HandlerId) (handler : Handler) (segment : Segment) :
    (s.runSegment mover handler segment).filterMap (Copy.sentBy id) =
      s.sentBy id ++ if mover = id then segment.sent.toList else [] := by
  have settled (copies : Copies) (settlement : Settlement) :
      (copies.settle handler.copy mover handler.channel settlement).filterMap (Copy.sentBy id) =
        copies.filterMap (Copy.sentBy id) :=
    Registry.filterMap_modify (Copy.sentBy_placed fun _ => ⟨_, rfl⟩) ..
  unfold State.runSegment
  cases segment.sent with
  | none => cases segment.settled <;> simp [settled, State.sentBy]
  | some pair => cases segment.settled <;> simp [settled, sentBy_publish, State.sentBy]

/-- No step of the execution itself. -/
def Action.foreign (id : HandlerId) : Action → Prop
  | .handlerSettles mover _ | .handlerResumes mover _ => mover ≠ id
  | _ => True

/-- Only a segment of its own publishes for an execution. -/
theorem sentBy_foreign (taken : s.step a = some s') (foreign : a.foreign id) :
    s'.sentBy id = s.sentBy id := by
  obtain ⟨t, acts, rfl⟩ := State.step_cases taken
  cases acts with
  | published host channel sendThrows segment message =>
    exact (sentBy_publish ..).trans (by simp [State.sentBy])
  | lost channel => exact sentBy_drop _
  | crashed host => exact sentBy_drop _
  | stored | deadLettered | delivered | refused | acked | requeued => exact sentBy_move _ _
  | handlerResumed mover handler sendThrows copy segment =>
    have other : mover ≠ id := foreign
    exact (sentBy_segment mover handler segment).trans (by simp [other])
  | _ => rfl

/-- Only the end of its own call is noted down for an execution. -/
theorem notified_foreign (taken : s.step a = some s') (foreign : a.foreign id)
    {orderId : Option Json} {time : Time} (noted : .notified orderId id time ∈ s'.history) :
    .notified orderId id time ∈ s.history := by
  rcases (consumerStep taken).history_cases rfl noted with
    old | ⟨mover, handler, result, after, events, rfl, found, moved, _, new⟩
  · exact old
  · have other : mover ≠ id := foreign
    generalize s'.redis = store at moved
    cases moved with
    | notified suspended =>
      have same := List.mem_singleton.mp new
      injection same with _ mine
      exact absurd mine.symm other
    | _ => simp at new

/-- What an execution found done by others stays done. -/
theorem Shows.remembers {copy : Copy} {deeds : List Deed} (shows : Shows s id handler copy deeds)
    (taken : s.step a = some s') :
    (.foundProcessed ∈ deeds → Notified s' handler.orderId) ∧
      (.confirmed ∈ deeds → ∃ own, Republished s' handler.copy own ∧ s'.stored own = true) := by
  constructor
  · intro found
    exact (shows.processed found).mono taken
  · intro answered
    obtain ⟨own, carries, stored⟩ := shows.confirmed answered
    exact ⟨own, carries.mono taken, stored_stays taken stored⟩

/-- Steps of others leave what an execution shows. -/
theorem Shows.foreign {copy : Copy} {deeds : List Deed} (shows : Shows s id handler copy deeds)
    (known : id < s.handlers.length) (held : s.copies[handler.copy]? = some copy)
    (taken : s.step a = some s') (foreign : a.foreign id) :
    ∃ place, s'.copies[handler.copy]? = some { copy with place } ∧
      Shows s' id handler { copy with place } deeds := by
  obtain ⟨place, there, placed⟩ := copy_placed taken held
  obtain ⟨processed, confirmed⟩ := shows.remembers taken
  refine ⟨place, there, ⟨?_, ?_, ?_, processed, confirmed⟩⟩
  · exact (sentBy_foreign taken foreign).trans shows.sent
  · rw [shows.notified]
    constructor
    · rintro ⟨time, noted⟩
      exact ⟨time, (consumerStep taken).remembers _ noted⟩
    · rintro ⟨time, noted⟩
      exact ⟨time, notified_foreign taken foreign noted⟩
  · intro settlement unacked
    have shown := shows.settled
    change place = _ at unacked
    subst unacked
    generalize handler.channel = channel at placed shown
    generalize before : copy.place = old at placed
    cases placed with
    | kept => exact shown settlement before
    | delivered since channel waiting => exact absurd known (Nat.lt_irrefl _)
    | settled mover handler sendThrows message ops segment settlement action =>
      subst action
      exact absurd rfl foreign

/-- A new execution has not done anything. -/
theorem Shows.fresh {stock : Int → Option Nat} (reachable : (system stock).Reachable anyStep s)
    (taken : s.step a = some s') (foreign : a.foreign s.handlers.length) (copy : Copy)
    (place : copy.place = .unacked s.handlers.length handler.channel none) :
    Shows s' s.handlers.length handler copy [] where
  sent := by
    rw [sentBy_foreign taken foreign]
    refine List.filterMap_eq_nil_iff.mpr fun other member => ?_
    obtain ⟨at_, found⟩ := List.mem_iff_getElem?.mp member
    rw [Copy.sentBy, if_neg]
    intro own
    obtain ⟨⟨mover, parent⟩, source, same⟩ := Option.map_eq_some_iff.mp own
    obtain ⟨_, _, _, _, hop⟩ := hops_invariant reachable at_ other mover parent found source
    subst same
    exact absurd (Registry.lt_of_found hop.found) (Nat.lt_irrefl _)
  notified := by
    constructor
    · intro noted
      cases noted
    · rintro ⟨time, noted⟩
      have older := notified_foreign taken foreign noted
      exact absurd ((check_times_invariant reachable).known _ _ _ older) (Nat.lt_irrefl _)
  settled settlement unacked := by
    rw [place] at unacked
    cases unacked
    rfl
  processed found := by cases found
  confirmed answered := by cases answered

theorem Follows.foreign (follows : Follows s id handler) (found : s.handlers[id]? = some handler)
    (taken : s.step a = some s') (foreign : a.foreign id) {pc : HandlerPc}
    (at_ : pc = .crashed ∨ pc = handler.pc) : Follows s' id { handler with pc } := by
  obtain ⟨copy, outcomes, pc', deeds, held, comes, shows, here⟩ := follows
  obtain ⟨place, there, shows'⟩ := shows.foreign (Registry.lt_of_found found) held taken foreign
  refine ⟨{ copy with place }, outcomes, pc', deeds, there, comes,
    ⟨shows'.sent, shows'.notified, shows'.settled, shows'.processed, shows'.confirmed⟩, ?_⟩
  rcases at_ with crashed | same
  · exact Or.inl crashed
  · rw [same]
    exact here

/-- The end of a call shows what the history gains. -/
theorem OrderNotificationConsumer.Settles.noted {redis redis' : Redis} {now : Time}
    {after : Handler} {stored : CopyId → Bool} {result : CallResult} {events : List Event}
    (moved : Settles redis now id handler stored result redis' after events) :
    .notified ∈ observed after.pc ↔ ∃ time, .notified handler.orderId id time ∈ events := by
  have silent (pc : HandlerPc) (other : ∀ reply, pc ≠ .notified reply) :
      .notified ∉ observed pc := by
    unfold observed
    split
    · split <;> simp
    · exact absurd rfl (other _)
    · simp
    · simp
  cases moved with
  | notified => simp [observed]
  | deleted pc suspended | deleteLost pc suspended =>
    rcases afterDel_cases suspended with ⟨_, rfl⟩ | ⟨_, _, rfl⟩
    · simp [observed]
    · simp [observed]
  | checked => simp [silent]
  | _ => simp [observed]

theorem OrderNotificationConsumer.Settles.unnumbered {redis redis' : Redis} {now : Time}
    {after : Handler} {stored : CopyId → Bool} {result : CallResult} {events : List Event}
    (moved : Settles redis now id handler stored result redis' after events) :
    after.pc.unnumbered = after.pc := by
  cases moved with
  | deleted pc suspended | deleteLost pc suspended =>
    rcases afterDel_cases suspended with ⟨_, rfl⟩ | ⟨_, _, rfl⟩
    · rfl
    · rfl
  | _ => rfl

/-- What the end of an await tells of others. -/
theorem observed_cases {pc : HandlerPc} {deed : Deed} (shown : deed ∈ observed pc) :
    (deed = .foundProcessed ∧ ∃ text, pc = .checked (.resolved (some text))) ∨
      deed = .notified ∨ (deed = .confirmed ∧ pc = .confirmed (.resolved ())) := by
  unfold observed at shown
  split at shown
  next text =>
    split at shown
    · cases shown
    · exact Or.inl ⟨List.mem_singleton.mp shown, text, rfl⟩
  · exact Or.inr (Or.inl (List.mem_singleton.mp shown))
  · exact Or.inr (Or.inr ⟨List.mem_singleton.mp shown, rfl⟩)
  · cases shown

/-- The awaited call of the execution ends. -/
theorem Follows.settled {stock : Int → Option Nat}
    (reachable : (system stock).Reachable anyStep s) {result : CallResult}
    (follows : Follows s id handler) (found : s.handlers[id]? = some handler)
    (taken : s.step (.handlerSettles id result) = some s') {after : Handler}
    (found' : s'.handlers[id]? = some after) : Follows s' id after := by
  have known := (acks_invariant (.step reachable trivial taken)).1 id after found'
  obtain ⟨copy, outcomes, pc, deeds, held, comes, shows, here⟩ := follows
  obtain ⟨processed, confirmed⟩ := shows.remembers taken
  obtain ⟨t, acts, rfl⟩ := State.step_cases taken
  cases acts with
  | handlerSettled _ old _ redis later present settled =>
    cases found.symm.trans present
    cases (Registry.set_self found).symm.trans found'
    have moved := settle_cases settled
    obtain ⟨sameCopy, _, sameOrder, _⟩ := moved.identity
    obtain ⟨running, _, sameChannel, _⟩ := moved.running
    obtain ⟨unsettled, unsent⟩ := observed_silent after.pc
    have same : handler.pc.unnumbered = pc := by
      rcases here with crashed | same
      · -- a dead process has no calls
        simp [settle, crashed] at settled
      · exact same
    subst same
    obtain ⟨decided, further⟩ := comes.waits moved
    refine ⟨copy, decided, after.pc, deeds ++ observed after.pc, ?_, further,
      ⟨?_, ?_, ?_, ?_, ?_⟩, Or.inr moved.unnumbered⟩
    · rw [sameCopy]
      exact held
    · rw [sends_append, unsent, List.append_nil]
      exact shows.sent
    · rw [List.mem_append, shows.notified, moved.noted, sameOrder]
      constructor
      · rintro (⟨time, older⟩ | ⟨time, new⟩)
        · exact ⟨time, List.mem_append_right _ older⟩
        · exact ⟨time, List.mem_append_left _ new⟩
      · rintro ⟨time, noted⟩
        rcases List.mem_append.mp noted with new | older
        · exact Or.inr ⟨time, new⟩
        · exact Or.inl ⟨time, older⟩
    · rw [settlements_append, unsettled, List.append_nil, sameChannel]
      exact shows.settled
    · intro member
      rcases List.mem_append.mp member with older | new
      · rw [sameOrder]
        exact processed older
      · rcases observed_cases new with ⟨_, text, at_⟩ | other | ⟨other, _⟩
        · exact known.duplicate text at_
        · cases other
        · cases other
    · intro member
      rcases List.mem_append.mp member with older | new
      · rw [sameCopy]
        exact confirmed older
      · rcases observed_cases new with ⟨other, _⟩ | other | ⟨_, at_⟩
        · cases other
        · cases other
        · exact known.confirmed at_

/-- Where its own segment leaves the copy of an execution. -/
theorem segment_place {copy : Copy} (held : s.copies[handler.copy]? = some copy)
    (segment : Segment) : ∃ place,
      (s.runSegment id handler segment)[handler.copy]? = some { copy with place } ∧
      place = match segment.settled with
        | some settlement => copy.place.settle id handler.channel settlement
        | none => copy.place := by
  have settled (copies : Copies) (present : copies[handler.copy]? = some copy)
      (settlement : Settlement) :
      (copies.settle handler.copy id handler.channel settlement)[handler.copy]? =
        some { copy with place := copy.place.settle id handler.channel settlement } := by
    rw [Copies.settle, Registry.modify_of present, if_pos rfl]
  unfold State.runSegment
  cases segment.sent with
  | none =>
    cases segment.settled with
    | none => exact ⟨copy.place, held, rfl⟩
    | some settlement => exact ⟨_, settled _ held settlement, rfl⟩
  | some pair =>
    cases segment.settled with
    | none => exact ⟨copy.place, Registry.added_of held, rfl⟩
    | some settlement => exact ⟨_, settled _ (Registry.added_of held) settlement, rfl⟩

/-- A settlement is shown when it is the first one. -/
theorem settle_first {place : Place} {channel : ChannelId} {before : List Settlement}
    {own : Settlement} {settlement : Option Settlement}
    (shown : ∀ settlement, place = .unacked id channel settlement → settlement = before.head?)
    (unacked : place.settle id channel own = .unacked id channel settlement) :
    settlement = (before ++ [own]).head? := by
  cases place with
  | unacked mover other earlier =>
    cases earlier with
    | none =>
      simp only [Place.settle] at unacked
      split at unacked
      next mine =>
        obtain ⟨rfl, rfl⟩ := mine
        have unsettled := List.head?_eq_none_iff.mp (shown none rfl).symm
        cases unacked
        rw [unsettled]
        rfl
      next others =>
        injection unacked with sameMover sameChannel
        exact absurd ⟨sameMover, sameChannel⟩ others
    | some earlier =>
      have first := shown settlement unacked
      cases unacked
      rw [List.head?_append, ← first]
      rfl
  | _ => cases unacked

/-- The execution runs on after its await. -/
theorem Follows.resumed {sendThrows : Bool} (follows : Follows s id handler)
    (found : s.handlers[id]? = some handler)
    (taken : s.step (.handlerResumes id sendThrows) = some s') {after : Handler}
    (found' : s'.handlers[id]? = some after) : Follows s' id after := by
  obtain ⟨copy, outcomes, pc, deeds, held, comes, shows, here⟩ := follows
  obtain ⟨processed, confirmed⟩ := shows.remembers taken
  obtain ⟨t, acts, rfl⟩ := State.step_cases taken
  cases acts with
  | handlerResumed _ old _ given segment present held' goes =>
    cases found.symm.trans present
    cases (Registry.set_self found).symm.trans found'
    cases held.symm.trans held'
    have same : handler.pc = pc := by
      rcases here with crashed | same
      · simp [resume, crashed] at goes
      · rw [← same]
        cases at_ : handler.pc with
        -- the await of a numbered copy has not ended
        | confirming other =>
          rw [at_] at goes
          cases goes
        | _ => rfl
    subst same
    obtain ⟨sent, settled⟩ := deedsIn_shows goes
    -- its own channel calls, besides what was shown before
    have older {deed : Deed} (unsent : ∀ sent, deed ≠ .sentToQueue sent)
        (unsettled : ∀ settlement, deed ≠ .settled settlement) : deed ∈ deeds ++
          deedsIn copy.message (s.channelOps handler.channel sendThrows) handler.pc segment →
        deed ∈ deeds := by
      intro member
      rcases List.mem_append.mp member with older | own
      · exact older
      · rcases deedsIn_channel own with ⟨sent, same⟩ | ⟨settlement, same⟩
        · exact absurd same (unsent sent)
        · exact absurd same (unsettled settlement)
    obtain ⟨later, further⟩ := comes.goes_on (resume_unnumbered goes)
    obtain ⟨place, there, placed⟩ := segment_place held segment
    refine ⟨{ copy with place }, later, segment.pc.unnumbered,
      deeds ++ deedsIn copy.message (s.channelOps handler.channel sendThrows) handler.pc segment,
      there, further, ⟨?_, ?_, ?_, ?_, ?_⟩, Or.inr rfl⟩
    · have gained : (s.runSegment id handler segment).filterMap (Copy.sentBy id) =
          s.sentBy id ++ segment.sent.toList := by
        rw [sentBy_segment, if_pos rfl]
      rw [sends_append, List.reduceOption_append, ← shows.sent]
      exact gained.trans (congrArg (s.sentBy id ++ ·) sent.symm)
    · exact Iff.trans ⟨older (by simp) (by simp), List.mem_append_left _⟩ shows.notified
    · intro settlement unacked
      rw [settlements_append, settled]
      change place = _ at unacked
      subst unacked
      cases settles : segment.settled with
      | none =>
        -- nothing settled, so the delivery stands as before
        rw [settles] at placed
        rw [shows.settled settlement placed.symm]
        simp
      | some own =>
        rw [settles] at placed
        exact settle_first shows.settled placed.symm
    · exact fun found => processed (older (by simp) (by simp) found)
    · exact fun answered => confirmed (older (by simp) (by simp) answered)

/-- A message is delivered to a new execution. -/
theorem Follows.begun {stock : Int → Option Nat} (reachable : (system stock).Reachable anyStep s)
    (taken : s.step a = some s') {after : Handler}
    (found : s'.handlers[s.handlers.length]? = some after) :
    Follows s' s.handlers.length after := by
  have shows (foreign : a.foreign s.handlers.length) (copy : Copy)
      (place : copy.place = .unacked s.handlers.length after.channel none) :
      Shows s' s.handlers.length after copy [] := Shows.fresh reachable taken foreign copy place
  have none_ : s.handlers[s.handlers.length]? = none := List.getElem?_eq_none (Nat.le_refl _)
  obtain ⟨t, acts, rfl⟩ := State.step_cases taken
  have there {id : CopyId} {copy : Copy} (held : s.copies[id]? = some copy) (place : Place) :
      (s.copies.move id place)[id]? = some { copy with place } :=
    (Registry.modify_of held).trans (by rw [if_pos rfl])
  cases acts with
  | delivered id copy since channel consumer orderId held waiting registered usable parsed =>
    rcases Registry.of_added found with old | ⟨_, rfl⟩
    · cases none_.symm.trans old
    · have awaits : firstAwait copy.message.content = .checking := by simp [firstAwait, parsed]
      exact ⟨_, .calm .rejected, .checking, [], there held _, awaits ▸ .began,
        shows trivial _ rfl, Or.inr rfl⟩
  | refused id copy since channel consumer text held waiting registered usable malformed =>
    rcases Registry.of_added found with old | ⟨_, rfl⟩
    · cases none_.symm.trans old
    · have refuses : firstAwait copy.message.content = .rejected := by simp [firstAwait, malformed]
      exact ⟨_, .calm .rejected, .rejected, [], there held _, refuses ▸ .began,
        shows trivial _ rfl, Or.inr rfl⟩
  | _ => exact absurd (Registry.lt_of_found found) (by simp [State.crash])

/-- Where a crash leaves an execution. -/
theorem crash_cases (pc : HandlerPc) : pc.crash = .crashed ∨ pc.crash = pc := by
  cases pc with
  | returned | rejected => exact Or.inr rfl
  | _ => exact Or.inl rfl

/-- A step of the execution itself. -/
theorem Follows.own {stock : Int → Option Nat} (reachable : (system stock).Reachable anyStep s)
    (follows : Follows s id handler) (found : s.handlers[id]? = some handler)
    (taken : s.step a = some s') (own : ¬a.foreign id) {after : Handler}
    (found' : s'.handlers[id]? = some after) : Follows s' id after := by
  cases a with
  | handlerSettles mover result =>
    obtain rfl : mover = id := not_not.mp own
    exact follows.settled reachable found taken found'
  | handlerResumes mover sendThrows =>
    obtain rfl : mover = id := not_not.mp own
    exact follows.resumed found taken found'
  | _ => exact absurd trivial own

def FollowsInv (s : State) : Prop :=
  ∀ (id : HandlerId) (handler : Handler), s.handlers[id]? = some handler → Follows s id handler

theorem FollowsInv.step {stock : Int → Option Nat} (inv : FollowsInv s)
    (reachable : (system stock).Reachable anyStep s) (taken : s.step a = some s') :
    FollowsInv s' := by
  intro id after found
  have follows {handler : Handler} (old : s.handlers[id]? = some handler)
      (foreign : a.foreign id → Follows s' id after) : Follows s' id after := by
    by_cases other : a.foreign id
    · exact foreign other
    · exact (inv id handler old).own reachable old taken other found
  cases (consumerStep taken).handler found with
  | kept old =>
    exact follows old fun foreign => (inv id after old).foreign old taken foreign (Or.inr rfl)
  | delivered copy since fresh =>
    subst fresh
    exact Follows.begun reachable taken found
  | settled handler result events action old =>
    subst action
    exact follows old fun foreign => absurd rfl foreign
  | resumed handler sendThrows copy segment action old =>
    subst action
    exact follows old fun foreign => absurd rfl foreign
  | crashed handler old same =>
    subst same
    exact follows old fun foreign =>
      (inv id handler old).foreign old taken foreign (crash_cases handler.pc)

end Steps

theorem follows_invariant {stock : Int → Option Nat} {s : State}
    (reachable : (system stock).Reachable anyStep s) : FollowsInv s := by
  apply reachable.invariant (I := FollowsInv)
  · rintro s rfl id handler found
    cases found
  · exact fun s a s' before inv _ taken => inv.step before taken

/-- **Every execution is one of `handleMessage`.** Whatever Redis, the broker, the channel and the
other executions do, there are outcomes of its calls under which `handleMessage` begins with what
the system shows of the execution; and once it is over, `handleMessage` under these outcomes ends as
it did, with exactly the deeds the system shows. -/
theorem executions_handle (stock : Int → Option Nat) (s : State)
    (reachable : (system stock).Reachable anyStep s) (id : HandlerId) (handler : Handler)
    (found : s.handlers[id]? = some handler) :
    ∃ copy outcomes deeds, s.copies[handler.copy]? = some copy ∧
      Shows s id handler copy deeds ∧
      deeds <+: (handleMessage copy.message outcomes).2 ∧
      (handler.pc = .returned ∨ handler.pc = .rejected →
        handleMessage copy.message outcomes = (handler.pc, deeds)) ∧
      (handler.pc = .returned → Done copy.message outcomes deeds) := by
  obtain ⟨copy, outcomes, pc, deeds, held, comes, shows, here⟩ :=
    follows_invariant reachable id handler found
  have whole := comes.proceeds (Nat.le_refl _)
  have ends (ended : handler.pc = .returned ∨ handler.pc = .rejected) :
      handleMessage copy.message outcomes = (handler.pc, deeds) := by
    have same : pc = handler.pc := by
      rcases here with crashed | same
      -- a crash ends no execution
      · rcases ended with ended | ended
        · cases crashed.symm.trans ended
        · cases crashed.symm.trans ended
      · rcases ended with ended | ended
        · rw [← same, ended]
          rfl
        · rw [← same, ended]
          rfl
    exact same ▸ comes.ends (same ▸ ended)
  refine ⟨copy, outcomes, deeds, held, shows, ?_, ends, fun returned => ?_⟩
  · rw [whole]
    exact List.prefix_append ..
  · have ended := ends (Or.inl returned)
    rcases handleMessage_cases copy.message outcomes with
      ⟨deeds', ended', _, _, done, _⟩ | ⟨deeds', ended', _⟩
    · rw [ended', Prod.mk.injEq] at ended
      exact ended.2 ▸ done
    · rw [returned] at ended
      cases ended.symm.trans ended'

/-- The processed check fails, the copy in the retry queue is confirmed, and the execution acks. -/
def handedOn : State :=
  .after anyStep (fun _ => some 1)
    (publishedOrder ++ [.deliver 0 1, .handlerSettles 0 (.failed false), .handlerResumes 0 false,
      .store 1, .handlerSettles 0 .ok, .handlerResumes 0 false])

theorem handedOn_handles : ∃ copy outcomes deeds, handedOn.copies[0]? = some copy ∧
    handleMessage copy.message outcomes = (.returned, deeds) ∧
    (sends deeds).reduceOption.map (·.1) = [.retry] ∧ settlements deeds = [.ack] := by
  have ended : (handedOn.handlers[0]?).map (fun handler =>
      (handler.pc, handler.copy, handler.channel)) = some (.returned, 0, 1) := by decide +kernel
  have place : (handedOn.copies[0]?).map (·.place) = some (.unacked 0 1 (some .ack)) := by
    decide +kernel
  have sent : (handedOn.sentBy 0).map (·.1) = [.retry] := by decide +kernel
  obtain ⟨handler, found, same⟩ := Option.map_eq_some_iff.mp ended
  simp only [Prod.mk.injEq] at same
  obtain ⟨returned, own, channel⟩ := same
  obtain ⟨copy, outcomes, deeds, held, shows, _, ends, done⟩ :=
    executions_handle _ handedOn (State.after_reachable ..) 0 handler found
  rw [own] at held
  rw [held, Option.map_some, Option.some.injEq] at place
  have acked := shows.settled (some .ack) (channel ▸ place)
  refine ⟨copy, outcomes, deeds, held, returned ▸ ends (Or.inl returned), ?_, ?_⟩
  · rw [← shows.sent]
    exact sent
  · have once := (done returned).atMostOnce
    cases settled : settlements deeds with
    | nil =>
      rw [settled] at acked
      cases acked
    | cons first rest =>
      rw [settled] at acked once
      cases acked
      rw [List.length_cons] at once
      have last : rest = [] := List.length_eq_zero_iff.mp (by omega)
      rw [last]

end FlashSaleLab
