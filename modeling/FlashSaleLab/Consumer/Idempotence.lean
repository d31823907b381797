import FlashSaleLab.Consumer.Completion

/-!
# Notification idempotence

The processed check comes before the lock and is not repeated under it. A handler that checked
before another one marked the order, and locks after that one released, notifies again. When
no lock is taken of an order already marked, the lock and the mark together let one
notification through. All of it is about one order: what happens to others does not matter.
-/
namespace FlashSaleLab

open OrderNotificationConsumer Transition

/-- A completed notification of `orderId`. -/
def Event.notifies (orderId : Option Json) : Event → Bool
  | .notified order _ _ => order = orderId
  | _ => false

/-- The processed key of `orderId` was stored and its TTL is over. -/
def Event.markEnded (orderId : Option Json) (now : Time) : Event → Bool
  | .processedStored order _ time => decide (order = orderId ∧ time + 86400000 ≤ now)
  | _ => false

namespace HandlerPc

def awaitsRedis : HandlerPc → Bool
  | .checking => true
  | .locking => true
  | .marking => true
  | .releasing => true
  | .cleaningUp _ => true
  | _ => false

/-- Holds the lock and has not stored the processed key. -/
def beforeMark : HandlerPc → Bool
  | .locked (.resolved true) => true
  | .notifying => true
  | .notified _ => true
  | .marking => true
  | .cleaningUp false => true
  | _ => false

end HandlerPc

/-! ### The assumptions -/

/-- A Redis call of a handler of `orderId` succeeds. -/
def redisAnswers (orderId : Option Json) (s : State) : Action → Prop :=
  Action.settling fun id result => ∀ handler ∈ s.handlers[id]?, handler.orderId = orderId →
    handler.pc.awaitsRedis = true → result = .ok

def Action.crashes : Action → Bool
  | .crash _ => true
  | _ => false

def noCrash (a : Action) : Prop := a.crashes = false

/-- The processed key of `orderId` has not expired. -/
def MarksLive (orderId : Option Json) (s : State) : Prop :=
  ∀ event ∈ s.history, event.markEnded orderId s.now = false

/-- The Redis calls for `orderId` succeed, no instance crashes, its holders release within the
TTL of the lock, and its processed key does not expire. -/
def calmStep (orderId : Option Json) (s : State) (a : Action) : Prop :=
  redisAnswers orderId s a ∧ noCrash a ∧
    ∀ s' ∈ s.step a, HoldersInTime orderId s' ∧ MarksLive orderId s'

/-- A lock attempt for `orderId` that succeeds finds its processed key absent. -/
def freshLock (orderId : Option Json) (s : State) : Action → Prop :=
  Action.settling fun id _ => ∀ handler ∈ s.handlers[id]?, handler.orderId = orderId →
    handler.pc = .locking → s.redis.live s.now (processingKey orderId) = none →
    s.redis.live s.now (processedKey orderId) = none

/-- A calm step that does not take the lock of `orderId` when it is already marked. -/
def freshStep (orderId : Option Json) (s : State) (a : Action) : Prop :=
  calmStep orderId s a ∧ freshLock orderId s a

instance (orderId : Option Json) (s : State) (a : Action) : Decidable (redisAnswers orderId s a) :=
  inferInstanceAs (Decidable (Action.settling (fun id result =>
    ∀ handler ∈ s.handlers[id]?, handler.orderId = orderId →
      handler.pc.awaitsRedis = true → result = .ok) a))

instance (a : Action) : Decidable (noCrash a) := inferInstanceAs (Decidable (a.crashes = false))

instance (orderId : Option Json) (s : State) : Decidable (MarksLive orderId s) :=
  inferInstanceAs (Decidable (∀ event ∈ s.history, event.markEnded orderId s.now = false))

instance (orderId : Option Json) (s : State) (a : Action) : Decidable (calmStep orderId s a) :=
  inferInstanceAs (Decidable (redisAnswers orderId s a ∧ noCrash a ∧
    ∀ s' ∈ s.step a, HoldersInTime orderId s' ∧ MarksLive orderId s'))

instance (orderId : Option Json) (s : State) (a : Action) : Decidable (freshLock orderId s a) :=
  inferInstanceAs (Decidable (Action.settling (fun id _ =>
    ∀ handler ∈ s.handlers[id]?, handler.orderId = orderId → handler.pc = .locking →
      s.redis.live s.now (processingKey orderId) = none →
      s.redis.live s.now (processedKey orderId) = none) a))

instance (orderId : Option Json) (s : State) (a : Action) : Decidable (freshStep orderId s a) :=
  inferInstanceAs (Decidable (calmStep orderId s a ∧ freshLock orderId s a))

/-! ### The invariant -/

/-- Some handler has stored the processed key of `orderId`. -/
def Marked (s : State) (orderId : Option Json) : Prop :=
  ∃ id time, .processedStored orderId id time ∈ s.history

/-- One notification of `orderId` at most, and from its end to its mark its handler holds the
lock. -/
structure OnceInv (orderId : Option Json) (s : State) : Prop where
  marked : ∀ (id : HandlerId) (handler : Handler), s.handlers[id]? = some handler →
    handler.orderId = orderId → handler.pc.afterMark = true → Marked s orderId
  unmarked : ∀ (id : HandlerId) (handler : Handler), s.handlers[id]? = some handler →
    handler.orderId = orderId → handler.pc.beforeMark = true → ¬Marked s orderId
  count : s.history.countP (·.notifies orderId) = 0 ∨
    (s.history.countP (·.notifies orderId) = 1 ∧ (Marked s orderId ∨
      ∃ (id : HandlerId) (handler : Handler), s.handlers[id]? = some handler ∧
        handler.orderId = orderId ∧ handler.pc.toMark = true))

/-- Two members of a list that both satisfy what at most one does. -/
theorem eq_of_countP_le_one {α : Type} {p : α → Bool} {xs : List α} {x y : α}
    (few : xs.countP p ≤ 1) (hx : x ∈ xs) (px : p x = true) (hy : y ∈ xs) (py : p y = true) :
    x = y := by
  rw [List.countP_eq_length_filter] at few
  have mx : x ∈ xs.filter p := List.mem_filter.mpr ⟨hx, px⟩
  have my : y ∈ xs.filter p := List.mem_filter.mpr ⟨hy, py⟩
  cases matching : xs.filter p with
  | nil =>
    rw [matching] at mx
    cases mx
  | cons head rest =>
    cases rest with
    | nil =>
      rw [matching, List.mem_singleton] at mx my
      rw [mx, my]
    | cons second more =>
      rw [matching] at few
      simp at few

theorem OnceInv.same_handler {orderId : Option Json} {s : State} (inv : OnceInv orderId s)
    {first second : HandlerId} {time since : Time}
    (one : .notified orderId first time ∈ s.history)
    (other : .notified orderId second since ∈ s.history) : first = second := by
  have few : s.history.countP (·.notifies orderId) ≤ 1 := by
    rcases inv.count with none | ⟨once, _⟩ <;> omega
  have same := eq_of_countP_le_one few one (by simp [Event.notifies]) other
    (by simp [Event.notifies])
  cases same
  rfl

theorem holding_cases {pc : HandlerPc} (holding : pc.holding = true) :
    pc.beforeMark = true ∨ pc.afterMark = true := by
  unfold HandlerPc.holding at holding
  split at holding <;> simp_all [HandlerPc.beforeMark, HandlerPc.afterMark]

theorem holding_of_beforeMark {pc : HandlerPc} (before : pc.beforeMark = true) :
    pc.holding = true := by
  unfold HandlerPc.beforeMark at before
  split at before <;> simp_all [HandlerPc.holding]

theorem beforeMark_of_toMark {pc : HandlerPc} (due : pc.toMark = true) :
    pc.beforeMark = true := by
  unfold HandlerPc.toMark at due
  split at due <;> simp_all [HandlerPc.beforeMark]

/-- What holds of one order in every state of a calm run. -/
structure CalmInv (orderId : Option Json) (s : State) : Prop where
  inTime : HoldersInTime orderId s
  live : MarksLive orderId s
  lock : LockInv orderId s
  tried : TriedInv s
  redis : RedisInv s
  acks : AcksInv s
  written : MarkedInv s
  once : OnceInv orderId s

section Steps

variable {orderId : Option Json} {s s' : State} {a : Action}

theorem CalmInv.unique (inv : CalmInv orderId s) {first second : HandlerId}
    {handler peer : Handler} (found : s.handlers[first]? = some handler)
    (foundPeer : s.handlers[second]? = some peer) (order : handler.orderId = orderId)
    (peerOrder : peer.orderId = orderId) (holding : handler.pc.holding = true)
    (peerHolding : peer.pc.holding = true) : first = second :=
  holder_unique inv.lock inv.tried inv.inTime found foundPeer order peerOrder holding peerHolding

/-- Also a second `del` meets nobody else's lease: its order is marked by then, and the one
notification was its handler's own. -/
theorem CalmInv.harmless (inv : CalmInv orderId s) : HarmlessDel orderId s a := by
  intro id result handler _ found order deletes other time held _
  obtain ⟨peer, foundPeer, peerOrder, holding, _⟩ := holds_eq_some.mp held
  by_cases second : handler.pc = .cleaningUp true
  · have mine : handler.pc.afterMark = true := by rw [second]; rfl
    obtain ⟨at_, own⟩ := (inv.acks id handler found).completed (Or.inr mine)
    rcases holding_cases holding with before | after
    · have marked := inv.once.marked id handler found order mine
      exact absurd marked (inv.once.unmarked other peer foundPeer peerOrder before)
    · obtain ⟨since, theirs⟩ := (inv.acks other peer foundPeer).completed (Or.inr after)
      rw [peerOrder] at theirs
      rw [order] at own
      exact inv.once.same_handler theirs own
  · exact inv.unique foundPeer found peerOrder order holding (holding_of_del deletes second)

theorem Marked.mono (events : List Event) (marked : Marked s orderId)
    (history : s'.history = events ++ s.history) : Marked s' orderId := by
  obtain ⟨id, time, noted⟩ := marked
  exact ⟨id, time, by rw [history]; exact List.mem_append_right _ noted⟩

/-- The events of a step that completes no notification of `orderId` and stores no processed key
for it. -/
def Quiet (orderId : Option Json) (events : List Event) : Prop :=
  events.countP (·.notifies orderId) = 0 ∧ ∀ id time, .processedStored orderId id time ∉ events

theorem Quiet.nil : Quiet orderId [] := ⟨rfl, by simp⟩

theorem Quiet.marked {events : List Event} (quiet : Quiet orderId events)
    (history : s'.history = events ++ s.history) (marked : Marked s' orderId) :
    Marked s orderId := by
  obtain ⟨id, time, noted⟩ := marked
  rw [history] at noted
  rcases List.mem_append.mp noted with new | old
  · exact absurd new (quiet.2 id time)
  · exact ⟨id, time, old⟩

/-- A quiet step keeps the invariant when each execution for the order that is past a point now
was past it before, and none that owes a mark is lost. -/
theorem OnceInv.quiet (inv : OnceInv orderId s) {events : List Event}
    (quiet : Quiet orderId events) (history : s'.history = events ++ s.history)
    (unmarked : ∀ (id : HandlerId) (after : Handler), s'.handlers[id]? = some after →
      after.orderId = orderId → after.pc.beforeMark = true → ¬Marked s orderId)
    (back : ∀ (id : HandlerId) (after : Handler), s'.handlers[id]? = some after →
      after.orderId = orderId → after.pc.afterMark = true →
      ∃ handler, s.handlers[id]? = some handler ∧ handler.orderId = orderId ∧
        handler.pc.afterMark = true)
    (forth : ∀ (id : HandlerId) (handler : Handler), s.handlers[id]? = some handler →
      handler.orderId = orderId → handler.pc.toMark = true →
      ∃ after, s'.handlers[id]? = some after ∧ after.orderId = orderId ∧
        after.pc.toMark = true) : OnceInv orderId s' where
  marked id after found order past := by
    obtain ⟨handler, old, before, ended⟩ := back id after found order past
    exact (inv.marked id handler old before ended).mono events history
  unmarked id after found order holds marked :=
    unmarked id after found order holds (quiet.marked history marked)
  count := by
    rw [history, List.countP_append, quiet.1, Nat.zero_add]
    rcases inv.count with none | ⟨one, marked | ⟨id, handler, found, order, due⟩⟩
    · exact Or.inl none
    · exact Or.inr ⟨one, Or.inl (marked.mono events history)⟩
    · exact Or.inr ⟨one, Or.inr ⟨id, forth id handler found order due⟩⟩

/-- The same for a step of one execution; an execution for another order may go anywhere. -/
theorem OnceInv.moved (inv : OnceInv orderId s) (events : List Event)
    (quiet : Quiet orderId events) (history : s'.history = events ++ s.history) {id : HandlerId}
    {handler after : Handler} (found : s.handlers[id]? = some handler)
    (handlers : s'.handlers = s.handlers.set id after) (same : after.orderId = handler.orderId)
    (unmarked : handler.orderId = orderId → after.pc.beforeMark = true → ¬Marked s orderId)
    (due : handler.orderId = orderId → after.pc.toMark = handler.pc.toMark)
    (past : handler.orderId = orderId → after.pc.afterMark = true →
      handler.pc.afterMark = true) : OnceInv orderId s' := by
  apply inv.quiet quiet history
  · intro other now present order holds
    rw [handlers] at present
    rcases Registry.of_set present with ⟨_, rfl⟩ | ⟨_, old⟩
    · exact unmarked (same.symm.trans order) holds
    · exact inv.unmarked other now old order holds
  · intro other now present order ended
    rw [handlers] at present
    rcases Registry.of_set present with ⟨rfl, rfl⟩ | ⟨_, old⟩
    · have before := same.symm.trans order
      exact ⟨handler, found, before, past before ended⟩
    · exact ⟨now, old, order, ended⟩
  · intro other before present order owes
    by_cases moved : other = id
    · subst moved
      cases found.symm.trans present
      refine ⟨after, ?_, same.trans order, (due order).trans owes⟩
      rw [handlers]
      exact Registry.set_self found
    · refine ⟨before, ?_, order, owes⟩
      rw [handlers, Registry.set_other moved]
      exact present

/-- What an execution for another order notes down is quiet. -/
theorem OrderNotificationConsumer.Settles.quiet {redis redis' : Redis} {now : Time}
    {id : HandlerId} {handler after : Handler} {stored : CopyId → Bool} {result : CallResult}
    {events : List Event} (moved : Settles redis now id handler stored result redis' after events)
    (other : handler.orderId ≠ orderId) : Quiet orderId events := by
  cases moved with
  | lockTaken => exact ⟨by simp [Event.notifies], by simp⟩
  | notified => exact ⟨by simp [Event.notifies, other], by simp⟩
  | markStored => exact ⟨by simp [Event.notifies], by simp [Ne.symm other]⟩
  | _ => exact .nil

theorem OrderNotificationConsumer.Continues.beforeMark {message : Message} {fresh : CopyId}
    {ops : ChannelOps} {pc : HandlerPc} {segment : Segment}
    (moved : Continues message fresh ops pc segment) (holds : segment.pc.beforeMark = true) :
    pc.beforeMark = true := by
  cases moved <;> first | rfl | cases holds

/-- A completed notification is the first one: its handler held the lock of an order nobody had
marked, so nobody had notified it. -/
theorem OnceInv.notify (inv : CalmInv orderId s) {id : HandlerId} {handler : Handler}
    (found : s.handlers[id]? = some handler) (order : handler.orderId = orderId)
    (suspended : handler.pc = .notifying)
    (handlers : s'.handlers = s.handlers.set id { handler with pc := .notified (.resolved ()) })
    (history : s'.history = .notified orderId id s.now :: s.history) : OnceInv orderId s' := by
  have before : handler.pc.beforeMark = true := by rw [suspended]; rfl
  have fresh : ¬Marked s orderId := inv.once.unmarked id handler found order before
  have still : ¬Marked s' orderId := by
    rintro ⟨writer, time, noted⟩
    rw [history] at noted
    exact fresh ⟨writer, time, by simpa using noted⟩
  have none : s.history.countP (·.notifies orderId) = 0 := by
    rcases inv.once.count with none | ⟨_, marked | ⟨other, peer, foundPeer, peerOrder, due⟩⟩
    · exact none
    · exact absurd marked fresh
    · -- whoever owes the mark holds the lock, so it is this handler, which has yet to notify
      have peerHolds := holding_of_beforeMark (beforeMark_of_toMark due)
      have same := inv.unique foundPeer found peerOrder order peerHolds
        (holding_of_beforeMark before)
      subst same
      cases found.symm.trans foundPeer
      rw [suspended] at due
      cases due
  constructor
  · intro other after present sameOrder past
    rw [handlers] at present
    rcases Registry.of_set present with ⟨_, rfl⟩ | ⟨_, old⟩
    · cases past
    · exact absurd (inv.once.marked other after old sameOrder past) fresh
  · exact fun _ _ _ _ _ => still
  · right
    refine ⟨by rw [history, List.countP_cons, none]; simp [Event.notifies],
      Or.inr ⟨id, { handler with pc := .notified (.resolved ()) }, ?_, order, rfl⟩⟩
    rw [handlers]
    exact Registry.set_self found

/-- The mark closes the order for every other handler: none of them holds the lock. -/
theorem OnceInv.mark (inv : CalmInv orderId s) {id : HandlerId} {handler : Handler}
    (found : s.handlers[id]? = some handler) (order : handler.orderId = orderId)
    (suspended : handler.pc = .marking)
    (handlers : s'.handlers = s.handlers.set id { handler with pc := .marked })
    (history : s'.history = .processedStored orderId id s.now :: s.history) :
    OnceInv orderId s' := by
  have holds : handler.pc.holding = true := by rw [suspended]; rfl
  have stored : Marked s' orderId := ⟨id, s.now, by rw [history]; exact List.mem_cons_self⟩
  constructor
  · exact fun _ _ _ _ _ => stored
  · intro other after present sameOrder before
    rw [handlers] at present
    rcases Registry.of_set present with ⟨_, rfl⟩ | ⟨apart, old⟩
    · cases before
    · exact absurd (inv.unique old found sameOrder order (holding_of_beforeMark before) holds) apart
  · rw [history, List.countP_cons, if_neg (by simp [Event.notifies]), Nat.add_zero]
    rcases inv.once.count with none | ⟨one, _⟩
    · exact Or.inl none
    · exact Or.inr ⟨one, Or.inl stored⟩

theorem OnceInv.settled (inv : CalmInv orderId s) {id : HandlerId} {handler after : Handler}
    {result : CallResult} {events : List Event} (found : s.handlers[id]? = some handler)
    (moved : Settles s.redis s.now id handler s.stored result s'.redis after events)
    (handlers : s'.handlers = s.handlers.set id after) (history : s'.history = events ++ s.history)
    (answers : redisAnswers orderId s (.handlerSettles id result))
    (fresh : freshLock orderId s (.handlerSettles id result)) : OnceInv orderId s' := by
  obtain ⟨same, _⟩ := moved.holding
  by_cases other : handler.orderId ≠ orderId
  · exact inv.once.moved events (moved.quiet other) history found handlers same
      (fun order => absurd order other) (fun order => absurd order other)
      fun order => absurd order other
  have order : handler.orderId = orderId := not_not.mp other
  have answered (awaits : handler.pc.awaitsRedis = true) : result = .ok :=
    answers handler found order awaits
  have idle (quiet : Quiet orderId events)
      (unmarked : after.pc.beforeMark = true → ¬Marked s orderId)
      (due : after.pc.toMark = handler.pc.toMark)
      (past : after.pc.afterMark = true → handler.pc.afterMark = true) : OnceInv orderId s' :=
    inv.once.moved events quiet history found handlers same (fun _ => unmarked) (fun _ => due)
      fun _ => past
  generalize s'.redis = redis at moved
  cases moved with
  | lockTaken reply suspended free told =>
    -- the processed key was absent, and none has expired, so nobody has stored it
    have unmarked : ¬Marked s orderId := by
      rintro ⟨writer, time, noted⟩
      have absent := fresh handler found order suspended (order ▸ free)
      have ended := inv.redis.unmarked absent noted
      have live := inv.live _ noted
      simp only [Event.markEnded, true_and, decide_eq_false_iff_not] at live
      exact live ended
    refine idle ?_ (fun _ => unmarked) ?_ fun past => by cases past
    · exact ⟨by simp [Event.notifies], by simp⟩
    · rw [suspended]
      rfl
  | notified suspended =>
    subst order
    exact .notify inv found rfl suspended handlers history
  | notificationFailed suspended =>
    refine idle .nil (fun _ => ?_) ?_ fun past => by cases past
    · exact inv.once.unmarked id handler found order (by rw [suspended]; rfl)
    · rw [suspended]
      rfl
  | markStored suspended =>
    subst order
    exact .mark inv found rfl suspended handlers history
  | markLost suspended lost =>
    exact absurd (answered (by rw [suspended]; rfl)) (CallResult.not_ok_of_lost lost)
  | deleted pc suspended | deleteLost pc suspended =>
    rcases afterDel_cases suspended with ⟨before, rfl⟩ | ⟨again, before, rfl⟩
    · refine idle .nil (fun holds => by cases holds) ?_ fun _ => ?_
      · rw [before]
        rfl
      · rw [before]
        rfl
    · refine idle .nil (fun holds => by cases holds) ?_ fun past => by cases past
      rw [before]
      rfl
  | checked suspended | checkFailed suspended | lockRefused entry suspended
  | lockFailed suspended | confirmed copy suspended | unconfirmed copy suspended =>
    refine idle .nil (fun holds => by cases holds) ?_ fun past => by cases past
    rw [suspended]
    rfl

theorem OnceInv.step (inv : CalmInv orderId s) (taken : ConsumerStep s a s')
    (answers : redisAnswers orderId s a) (alive : noCrash a) (fresh : freshLock orderId s a) :
    OnceInv orderId s' := by
  cases taken with
  | idle handlers redis events foreign history =>
    have quiet : Quiet orderId events := by
      constructor
      · refine List.countP_eq_zero.mpr fun event member notifies => ?_
        have outbox := foreign event member
        cases event <;> simp [Event.notifies, Event.outboxId?] at notifies outbox
      · exact fun id time member => foreign _ member rfl
    apply inv.once.quiet quiet history
    · exact fun id after found => inv.once.unmarked id after (handlers ▸ found)
    · exact fun id after found order past => ⟨after, handlers ▸ found, order, past⟩
    · exact fun id handler found order due =>
        ⟨handler, by rw [handlers]; exact found, order, due⟩
  | delivered handler copy since held waiting start deliveredAt unchecked untried now handlers
      redis history =>
    have idle : handler.pc.beforeMark = false ∧ handler.pc.afterMark = false := by
      rcases start with ⟨checking, _⟩ | rejected
      · rw [checking]
        exact ⟨rfl, rfl⟩
      · rw [rejected]
        exact ⟨rfl, rfl⟩
    apply inv.once.quiet .nil history
    · intro id after found order holds
      rw [handlers] at found
      rcases Registry.of_added found with old | ⟨_, rfl⟩
      · exact inv.once.unmarked id after old order holds
      · cases idle.1.symm.trans holds
    · intro id after found order past
      rw [handlers] at found
      rcases Registry.of_added found with old | ⟨_, rfl⟩
      · exact ⟨after, old, order, past⟩
      · cases idle.2.symm.trans past
    · exact fun id before found order due =>
        ⟨before, by rw [handlers]; exact Registry.added_of found, order, due⟩
  | settled id handler result after events action found moved now handlers history =>
    subst action
    exact .settled inv found moved handlers history answers fresh
  | resumed id handler sendThrows copy segment action found held moved copies now handlers redis
      history =>
    obtain ⟨due, past⟩ := moved.marks
    refine inv.once.moved [] .nil history found handlers rfl (fun order holds => ?_)
      (fun _ => due) fun _ => past
    exact inv.once.unmarked id handler found order (moved.beforeMark holds)
  | crashed host action =>
    subst action
    cases alive

end Steps

theorem calm_invariant {stock : Int → Option Nat} {orderId : Option Json} {s : State}
    (reachable : (system stock).Reachable (freshStep orderId) s) : CalmInv orderId s := by
  apply reachable.invariant (I := CalmInv orderId)
  · rintro s rfl
    obtain ⟨acks, written⟩ := acks_initial stock
    refine ⟨?_, ?_, lock_initial stock orderId, tried_initial stock, redis_initial stock, acks,
      written, ?_⟩
    · intro handler member
      cases member
    · intro event member
      cases member
    · constructor
      · intro id handler found
        cases found
      · intro id handler found
        cases found
      · exact Or.inl rfl
  · rintro s a s' _ inv ⟨⟨answers, alive, after⟩, fresh⟩ taken
    have step := consumerStep taken
    have later := State.clock_step taken
    exact ⟨(after s' taken).1, (after s' taken).2, inv.lock.step later step inv.harmless,
      inv.tried.step step, inv.redis.step later step, inv.acks.step inv.written inv.redis taken,
      inv.written.step inv.acks taken, .step inv step answers alive fresh⟩

/-- **Idempotence under fresh locks.** In a run that is calm for an order and in which no handler
takes its lock while its processed key is stored, the order's notification is completed at most
once. -/
theorem notified_at_most_once (stock : Int → Option Nat) (orderId : Option Json) (s : State)
    (reachable : (system stock).Reachable (freshStep orderId) s) :
    s.history.countP (·.notifies orderId) ≤ 1 := by
  rcases (calm_invariant reachable).once.count with none | ⟨one, _⟩
  · rw [none]
    exact Nat.zero_le 1
  · exact Nat.le_of_eq one

/-- Two messages announce the order: the first publication's confirmation is lost, its claim is
recovered, and the event is published again. -/
def publishedTwice : List Action :=
  publishedOrder ++
    [.publisherSettles 0 (.failed true), .publisherResumes 0 (some 0) false, .tick 30001,
      .recoverStuckProcessing 30001, .publishPending 0, .publisherSettles 0 .ok,
      .publisherResumes 0 (some 0) false, .publisherSettles 0 .ok,
      .publisherResumes 0 (some 0) false, .store 1]

/-- Handlers 0 and 1 take the two messages. Both check before either locks. -/
def checkBoth : List Action :=
  [.deliver 0 0, .deliver 1 1, .handlerSettles 0 .ok, .handlerSettles 1 .ok,
    .handlerResumes 0 false, .handlerResumes 1 false]

/-- Handler 0 locks, notifies, marks, releases and acks. -/
def runFirst : List Action :=
  [.handlerSettles 0 .ok, .handlerResumes 0 false] ++ finishFirst ++
    [.handlerSettles 0 .ok, .handlerResumes 0 false]

/-- Handler 1 locks after that, and notifies. -/
def runSecond : List Action :=
  [.handlerSettles 1 .ok, .handlerResumes 1 false, .handlerSettles 1 .ok]

def staleCheck : State :=
  .after (calmStep (some (.number 1))) (fun _ => some 1)
    (publishedTwice ++ checkBoth ++ runFirst ++ runSecond)

/-- The same actions, less the lock attempt with the stale check. -/
def freshCheck : State :=
  .after (freshStep (some (.number 1))) (fun _ => some 1)
    (publishedTwice ++ checkBoth ++ runFirst ++ runSecond)

theorem freshCheck_notifies_once :
    freshCheck.history.countP (·.notifies (some (.number 1))) = 1 := by
  have reachable : (system _).Reachable (freshStep (some (.number 1))) freshCheck :=
    State.after_reachable ..
  have most := notified_at_most_once _ (some (.number 1)) freshCheck reachable
  have least : 1 ≤ freshCheck.history.countP (·.notifies (some (.number 1))) := by decide +kernel
  exact Nat.le_antisymm most least

/-- The second handler's processed check is stale when it takes the lock. -/
theorem staleCheck_notifies_twice :
    ¬∀ (stock : Int → Option Nat) (orderId : Option Json) (s : State),
      (system stock).Reachable (calmStep orderId) s →
        s.history.countP (·.notifies orderId) ≤ 1 := by
  intro claim
  have reachable : (system _).Reachable (calmStep (some (.number 1))) staleCheck :=
    State.after_reachable ..
  exact absurd (claim _ _ staleCheck reachable) (by decide +kernel)

end FlashSaleLab
