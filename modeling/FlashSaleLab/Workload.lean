import FlashSaleLab.Consumer.Room
import FlashSaleLab.Foundations.Runs
import FlashSaleLab.Sales.Deadlock

/-!
# Bounded work

No call, no timer tick and no delivery keeps the system busy for ever, whatever fails: each
`create`, each cycle of `publishPending` and each execution of `handleMessage` has a rank that every
one of its own steps brings down and no step of anybody else brings up.
-/
namespace FlashSaleLab

open OrderService OutboxPublisherService Transition

/-- A call that execution awaits ends. -/
def Action.handles (id : HandlerId) : Action → Bool
  | .handlerSettles handler _ => decide (handler = id)
  | _ => false

/-- An await of the instance's publisher ends, or the segment after it runs. -/
def Action.publishes (host : InstanceId) : Action → Bool
  | .publisherSettles mover _ | .publisherResumes mover _ _ => decide (mover = host)
  | _ => false

def Action.startsCycle (host : InstanceId) : Action → Bool
  | .publishPending mover => decide (mover = host)
  | _ => false

namespace OrderNotificationConsumer

variable {redis redis' : Redis} {now : Time} {id : HandlerId} {handler after : Handler}
  {stored : CopyId → Bool} {result : CallResult} {events : List Event} {message : Message}
  {fresh : CopyId} {ops : ChannelOps} {pc : HandlerPc} {segment : Segment}

theorem Settles.awaits (settles : Settles redis now id handler stored result redis' after events) :
    awaits after.pc < awaits handler.pc := by
  cases settles with
  | deleted pc suspended | deleteLost pc suspended =>
    rcases afterDel_cases suspended with ⟨before, rfl⟩ | ⟨again, before, rfl⟩
    · simp [before, OrderNotificationConsumer.awaits]
    · simp [before, OrderNotificationConsumer.awaits]
  | checked suspended | checkFailed suspended | lockTaken reply suspended
  | lockRefused entry suspended | lockFailed suspended | notified suspended
  | notificationFailed suspended | markStored suspended | markLost suspended
  | confirmed copy suspended | unconfirmed copy suspended =>
    simp [suspended, OrderNotificationConsumer.awaits]

theorem Continues.awaits (continues : Continues message fresh ops pc segment) :
    awaits segment.pc ≤ awaits pc := by
  cases continues with
  | republished pc queue message' site => exact site.readsCounter.awaits_pos
  | _ => simp [OrderNotificationConsumer.awaits]

end OrderNotificationConsumer

namespace OutboxPublisherService

/-- A cycle that has not ended awaits a call or is in between. -/
theorem goes_on (rows : List OutboxEvent) (publisher : Publisher) (stored : CopyId → Bool)
    (now : Time) (unavailable : Bool) (fresh : CopyId) (busy : publisher.pc ≠ .idle) :
    (resume publisher now unavailable fresh).isSome ∨ ∀ result,
      (settle rows publisher stored result).isSome ∨ result = .ok ∧
        ∃ event rest copy, publisher.pc = .publishing event rest copy ∧ stored copy = false := by
  cases here : publisher.pc with
  | idle => exact absurd here busy
  | found reply | published event rest reply | marked rest reply =>
    left
    cases reply <;> simp [resume, here]
  | claimed event rest reply =>
    left
    cases reply with
    | rejected => simp [resume, here]
    | resolved claimed =>
      simp only [resume, here]
      split
      · rfl
      · split
        · rfl
        · split <;> rfl
  | publishing event rest copy =>
    right
    intro result
    cases result with
    | failed applied => exact Or.inl (by simp [settle, here])
    | ok =>
      cases present : stored copy with
      | true => exact Or.inl (by simp [settle, here, present])
      | false => exact Or.inr ⟨rfl, event, rest, copy, rfl, present⟩
  | marking event rest sentAt =>
    right
    intro result
    left
    simp only [settle, here]
    split <;> rfl
  | _ =>
    right
    intro result
    left
    simp [settle, here]

end OutboxPublisherService

def State.handlerRank (s : State) : HandlerId → Nat :=
  Registry.sizeAt (fun handler => OrderNotificationConsumer.awaits handler.pc) 7 s.handlers

section Steps

variable {s s' : State} {a : Action}

theorem handlerRank_step (id : HandlerId) (taken : s.step a = some s') :
    s'.handlerRank id + (if a.handles id then 1 else 0) ≤ s.handlerRank id := by
  obtain ⟨t, acts, rfl⟩ := State.step_cases taken
  cases acts with
  | delivered copyId copy since channel consumer orderId =>
    apply Registry.sizeAt_added
    simp [OrderNotificationConsumer.awaits]
  | refused copyId copy since channel consumer text =>
    apply Registry.sizeAt_added
    simp [OrderNotificationConsumer.awaits]
  | handlerSettled mover handler result redis after found settled =>
    by_cases mine : mover = id
    · subst mine
      simp only [Action.handles, decide_true, if_true]
      exact Registry.sizeAt_self found (OrderNotificationConsumer.settle_cases settled).awaits
    · simp only [Action.handles, mine, decide_false, Bool.false_eq_true, if_false]
      exact Nat.le_of_eq (Registry.sizeAt_other fun same => mine same.symm)
  | handlerResumed mover handler sendThrows copy segment found held resumed =>
    by_cases mine : mover = id
    · subst mine
      exact Registry.sizeAt_self found (OrderNotificationConsumer.resume_cases resumed).awaits
    · exact Nat.le_of_eq (Registry.sizeAt_other fun same => mine same.symm)
  | crashed host =>
    apply Registry.sizeAt_map
    intro handler
    split
    · cases handler.pc <;> simp [HandlerPc.crash, OrderNotificationConsumer.awaits]
    · exact Nat.le_refl _
  | _ => exact Nat.le_refl _

/-- A cycle starts with two ranks for its query and six for each event it may find. -/
theorem publisherRank_step (host : InstanceId) (taken : s.step a = some s') :
    (s'.publishers host).pc.rank + (if a.publishes host then 1 else 0) ≤
      (s.publishers host).pc.rank + (if a.startsCycle host then 6 * batchSize + 2 else 0) := by
  obtain ⟨t, acts, rfl⟩ := State.step_cases taken
  -- a step that replaces the publisher of some instance
  have replaced {mover : InstanceId} {publisher : Publisher}
      (lower : publisher.pc.rank < (s.publishers mover).pc.rank) :
      (Function.update s.publishers mover publisher host).pc.rank +
        (if mover = host then 1 else 0) ≤ (s.publishers host).pc.rank := by
    by_cases mine : mover = host
    · subst mine
      simpa [Nat.succ_le_iff] using lower
    · simp [mine, Function.update_of_ne (Ne.symm mine)]
  cases acts with
  | started mover publisher finding =>
    by_cases mine : mover = host
    · subst mine
      simp [Action.publishes, Action.startsCycle, finding, PublisherPc.rank]
    · simp [Action.publishes, Action.startsCycle, mine, Function.update_of_ne (Ne.symm mine)]
  | publisherSettled mover result events publisher settled =>
    simpa [Action.publishes, Action.startsCycle] using replaced (settle_rank settled)
  | publisherAdvanced mover channel sendThrows segment resumed =>
    simpa [Action.publishes, Action.startsCycle] using replaced (resume_rank resumed)
  | published mover channel sendThrows segment message resumed =>
    simpa [Action.publishes, Action.startsCycle] using replaced (resume_rank resumed)
  | crashed mover =>
    by_cases mine : mover = host
    · subst mine
      simp [Action.publishes, State.crash, OutboxPublisherService.initial, PublisherPc.rank]
    · simp [Action.publishes, State.crash, Function.update_of_ne (Ne.symm mine)]
  | _ => simp [Action.publishes, Action.startsCycle]

theorem LocksInv.call_goes_on (locks : LocksInv s) {id : CallId} {call : CreateCall}
    (found : s.calls[id]? = some call) (running : call.pc.running = true) (ok : Bool) :
    (s.step (.query id ok)).isSome ∨ ok = true ∧ ∃ (holder : CallId) (other : CreateCall),
      s.db.lockedBy call.input.productId = some holder ∧ s.calls[holder]? = some other ∧
      other.pc.CommitsNext := by
  cases executed : create s.db id call ok s.moment with
  | some result =>
    left
    simp [State.step, State.act, State.query, found, executed]
  | none =>
    right
    obtain ⟨succeeds, holder, locked⟩ := create_waits executed running
    obtain ⟨other, present, next⟩ := locks _ holder locked
    exact ⟨succeeds, holder, other, locked, present, next⟩

theorem handler_goes_on (handlers : HandlersInv s) {id : HandlerId} {handler : Handler}
    (found : s.handlers[id]? = some handler) (running : handler.pc.ended = false) :
    (s.step (.handlerResumes id false)).isSome ∨ ∀ result,
      (s.step (.handlerSettles id result)).isSome ∨ result = .ok ∧
        ∃ copy, handler.pc = .confirming copy ∧ s.stored copy = false := by
  obtain ⟨copy, held, _⟩ := (handlers id handler found).given
  cases resumed : OrderNotificationConsumer.resume copy.message s.copies.length
    (s.channelOps handler.channel false) handler.pc with
  | some segment =>
    left
    simp [State.step, State.act, State.handlerResumes, found, held, resumed]
  | none =>
    right
    intro result
    rcases OrderNotificationConsumer.goes_on s.redis s.now id handler s.stored result
      copy.message s.copies.length (s.channelOps handler.channel false) running with
      settles | resumes | waits
    · obtain ⟨⟨redis, after⟩, settled⟩ := Option.isSome_iff_exists.mp settles
      left
      simp [State.step, State.act, State.handlerSettles, found, settled]
    · rw [resumed] at resumes
      cases resumes
    · exact Or.inr waits

theorem publisher_goes_on {host : InstanceId} (busy : (s.publishers host).pc ≠ .idle) :
    (s.step (.publisherResumes host none false)).isSome ∨ ∀ result,
      (s.step (.publisherSettles host result)).isSome ∨ result = .ok ∧ ∃ event rest copy,
        (s.publishers host).pc = .publishing event rest copy ∧ s.stored copy = false := by
  rcases OutboxPublisherService.goes_on s.db.outboxEvents (s.publishers host) s.stored s.now
    (s.unavailable host none false) s.copies.length busy with resumes | settles
  · obtain ⟨segment, resumed⟩ := Option.isSome_iff_exists.mp resumes
    left
    simp [State.step, State.act, State.publisherResumes, resumed]
  · right
    intro result
    rcases settles result with possible | waits
    · obtain ⟨⟨rows, publisher⟩, settled⟩ := Option.isSome_iff_exists.mp possible
      left
      simp [State.step, State.act, State.publisherSettles, settled]
    · exact Or.inr waits

end Steps

/-- **Bounded work.** In every run, whatever fails and whoever moves in between: a call of `create`
awaits at most five statements, an execution of `handleMessage` at most seven calls, and the
publisher of an instance takes at most 3002 steps for each call of its `publishPending`. What has
not ended can go on: its next segment runs, or the call it awaits ends, well or not. Only a
statement cannot succeed while its row is locked, by a call that has just its `COMMIT` before it,
and a confirmation cannot come before the broker has stored the message. -/
theorem work_bounded (stock : Int → Option Nat) (past : List (State × Action)) (s : State)
    (run : (system stock).Run anyStep past s) :
    (∀ id, past.countP (fun step => step.2.queries id) ≤ 5) ∧
    (∀ id, past.countP (fun step => step.2.handles id) ≤ 7) ∧
    (∀ host, past.countP (fun step => step.2.publishes host) ≤
      3002 * past.countP (fun step => step.2.startsCycle host)) ∧
    (∀ (id : CallId) (call : CreateCall), s.calls[id]? = some call → call.pc.running = true →
      ∀ ok, (s.step (.query id ok)).isSome ∨ ok = true ∧ ∃ (holder : CallId) (other : CreateCall),
        s.db.lockedBy call.input.productId = some holder ∧ s.calls[holder]? = some other ∧
        other.pc.CommitsNext) ∧
    (∀ (id : HandlerId) (handler : Handler), s.handlers[id]? = some handler →
      handler.pc.ended = false → (s.step (.handlerResumes id false)).isSome ∨ ∀ result,
        (s.step (.handlerSettles id result)).isSome ∨ result = .ok ∧
          ∃ copy, handler.pc = .confirming copy ∧ s.stored copy = false) ∧
    ∀ host, (s.publishers host).pc ≠ .idle →
      (s.step (.publisherResumes host none false)).isSome ∨ ∀ result,
        (s.step (.publisherSettles host result)).isSome ∨ result = .ok ∧ ∃ event rest copy,
          (s.publishers host).pc = .publishing event rest copy ∧ s.stored copy = false := by
  refine ⟨?_, ?_, ?_, ?_, ?_, fun host => publisher_goes_on⟩
  · intro id
    have paid := run.budget (fun s => s.callRank id) (Action.queries id) (fun _ => false) 5 0
      (by rintro s rfl; exact Nat.le_refl 5) fun s a s' taken => by
        simpa using callRank_step id taken
    omega
  · intro id
    have paid := run.budget (fun s => s.handlerRank id) (Action.handles id) (fun _ => false) 7 0
      (by rintro s rfl; exact Nat.le_refl 7) fun s a s' taken => by
        simpa using handlerRank_step id taken
    omega
  · intro host
    have paid := run.budget (fun s => (s.publishers host).pc.rank) (Action.publishes host)
      (Action.startsCycle host) 0 3002 (by rintro s rfl; exact Nat.le_refl 0) fun s a s' taken =>
        publisherRank_step host taken
    omega
  · intro id call
    exact (locks_invariant run.reachable).call_goes_on
  · intro id handler
    exact handler_goes_on (copies_invariant run.reachable).2

/-- The publisher awaits its confirmation, and the message is with its first consumer. -/
def firstDelivery : State :=
  .after anyStep (fun productId => if productId = 7 then some 1 else none)
    (publishedOrder ++ [.deliver 0 1])

theorem firstDelivery_bounded :
    firstDelivery.handlers.map (·.pc) = [.checking] ∧
    ∃ past, (system fun productId => if productId = 7 then some 1 else none).Run anyStep past
        firstDelivery ∧
      past.countP (fun step => step.2.queries 0) ≤ 5 ∧
      past.countP (fun step => step.2.publishes 0) ≤
        3002 * past.countP (fun step => step.2.startsCycle 0) := by
  have reachable : (system _).Reachable anyStep firstDelivery := State.after_reachable ..
  obtain ⟨past, run⟩ := reachable.run
  have bounded := work_bounded _ past _ run
  exact ⟨by decide +kernel, past, run, bounded.1 0, bounded.2.2.1 0⟩

end FlashSaleLab
