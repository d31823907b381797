import FlashSaleLab.Consumer.Attempts

/-!
# Refused lock attempts

An execution reaches its lock attempt only from a processed check that found nothing. When the
attempt is refused, a lease of another execution was in force. Both facts stay true of the
execution for the rest of the run, and the copy it publishes after the refusal points to it.
-/
namespace FlashSaleLab

open OrderNotificationConsumer Transition

/-- In `seen`, earlier in the run to `s`, execution `id` read Redis and found no processed key. -/
structure CheckedIn (stock : Int → Option Nat) (seen s : State) (orderId : Option Json)
    (id : HandlerId) : Prop where
  reachable : (system stock).Reachable anyStep seen
  checking : ∃ handler, seen.handlers[id]? = some handler ∧ handler.orderId = orderId ∧
    handler.pc = .checking
  absent : seen.redis.live seen.now (processedKey orderId) = none
  steps : ∃ next, seen.step (.handlerSettles id .ok) = some next ∧
    (system stock).Steps anyStep next s

/-- A refused attempt: whose, on which delivery, the state its check read, and the lease that
refused it. -/
structure Refusal where
  handler : HandlerId
  copy : CopyId
  deliveredAt : Time
  seen : State
  triedAt : Time
  holder : HandlerId
  lockedAt : Time

structure Refused (stock : Int → Option Nat) (s : State) (orderId : Option Json) (r : Refusal) :
    Prop where
  execution : ∃ handler, s.handlers[r.handler]? = some handler ∧ handler.copy = r.copy ∧
    handler.deliveredAt = r.deliveredAt ∧ handler.pc.pastAttempt = true
  checked : CheckedIn stock r.seen s orderId r.handler
  delivered : r.deliveredAt ≤ r.seen.now
  before : r.seen.now ≤ r.triedAt
  tried : r.triedAt ≤ s.now
  locked : .lockStored orderId r.holder r.lockedAt ∈ s.history
  taken : r.lockedAt ≤ r.triedAt
  inForce : r.triedAt < r.lockedAt + 30000
  lockless : ∀ order time, .lockStored order r.handler time ∉ s.history

/-- The check of execution `id` found nothing. -/
def Unmarked (stock : Int → Option Nat) (s : State) (id : HandlerId) (handler : Handler) : Prop :=
  ∃ seen, CheckedIn stock seen s handler.orderId id ∧ handler.deliveredAt ≤ seen.now

/-- What is known of an execution between its check and the end of its attempt. -/
structure TrialInv (stock : Int → Option Nat) (s : State) (id : HandlerId) (handler : Handler) :
    Prop where
  read : ∀ reply, handler.pc = .checked (.resolved reply) →
    reply ≠ some "" ∧ (reply = none → Unmarked stock s id handler)
  locking : handler.pc = .locking → Unmarked stock s id handler
  refused : handler.pc = .locked (.resolved false) →
    ∃ r, Refused stock s handler.orderId r ∧ r.handler = id

def TrialsInv (stock : Int → Option Nat) (s : State) : Prop :=
  ∀ (id : HandlerId) (handler : Handler), s.handlers[id]? = some handler →
    TrialInv stock s id handler

section Steps

variable {stock : Int → Option Nat} {s s' seen : State} {a : Action} {orderId : Option Json}
  {id : HandlerId}

theorem CheckedIn.mono (checked : CheckedIn stock seen s orderId id)
    (taken : s.step a = some s') : CheckedIn stock seen s' orderId id := by
  obtain ⟨next, first, steps⟩ := checked.steps
  exact ⟨checked.reachable, checked.checking, checked.absent, next, first,
    steps.tail ⟨a, trivial, taken⟩⟩

/-- After the check a mark carries the time at which it was stored, so it is not older. -/
theorem marked_since {next : State} (steps : (system stock).Steps anyStep next s)
    (later : seen.now ≤ next.now)
    (known : ∀ other time, .processedStored orderId other time ∈ next.history →
      .processedStored orderId other time ∈ seen.history ∨ seen.now ≤ time) :
    seen.now ≤ s.now ∧ ∀ other time, .processedStored orderId other time ∈ s.history →
      .processedStored orderId other time ∈ seen.history ∨ seen.now ≤ time := by
  refine steps.stable (P := fun t => seen.now ≤ t.now ∧ ∀ other time,
    .processedStored orderId other time ∈ t.history →
      .processedStored orderId other time ∈ seen.history ∨ seen.now ≤ time) ?_ ⟨later, known⟩
  rintro t a t' ⟨past, marks⟩ _ taken
  refine ⟨past.trans (State.clock_step taken), fun other time noted => ?_⟩
  rcases (consumerStep taken).history_cases rfl noted with
    old | ⟨mover, handler, result, after, events, action, found, moved, present, new⟩
  · exact marks other time old
  · generalize t'.redis = store at moved
    cases moved with
    | markStored suspended =>
      cases List.mem_singleton.mp new
      exact Or.inr past
    | _ => simp at new

/-- Whatever was stored before the check had expired by then. -/
theorem CheckedIn.marked (checked : CheckedIn stock seen s orderId id) {other : HandlerId}
    {time : Time} (noted : .processedStored orderId other time ∈ s.history) :
    time + 86400000 ≤ seen.now ∨ seen.now ≤ time := by
  obtain ⟨next, first, steps⟩ := checked.steps
  obtain ⟨handler, found, _, suspended⟩ := checked.checking
  -- the step of the check itself stores nothing
  have known : ∀ other time, .processedStored orderId other time ∈ next.history →
      .processedStored orderId other time ∈ seen.history ∨ seen.now ≤ time := by
    intro other time noted
    rcases (consumerStep first).history_cases rfl noted with
      old | ⟨mover, peer, result, after, events, action, present, moved, _, new⟩
    · exact Or.inl old
    · cases action
      cases found.symm.trans present
      generalize next.redis = store at moved
      cases moved with
      | markStored marking => cases suspended.symm.trans marking
      | _ => simp at new
  rcases (marked_since steps (State.clock_step first) known).2 other time noted with old | new
  · exact Or.inl ((redis_invariant checked.reachable).unmarked checked.absent old)
  · exact Or.inr new

/-- What was noted down by the check is so still. -/
theorem CheckedIn.remembers (checked : CheckedIn stock seen s orderId id) {event : Event}
    (noted : event ∈ seen.history) : event ∈ s.history := by
  obtain ⟨next, first, steps⟩ := checked.steps
  exact steps.stable (P := fun t => event ∈ t.history)
    (fun t a t' member _ taken => (consumerStep taken).remembers event member)
    ((consumerStep first).remembers event noted)

theorem CheckedIn.past (checked : CheckedIn stock seen s orderId id) : seen.now ≤ s.now := by
  obtain ⟨next, first, steps⟩ := checked.steps
  exact steps.stable (P := fun t => seen.now ≤ t.now)
    (fun t a t' past _ taken => past.trans (State.clock_step taken)) (State.clock_step first)

theorem Refused.mono {r : Refusal} (refused : Refused stock s orderId r)
    (taken : s.step a = some s') : Refused stock s' orderId r := by
  have step := consumerStep taken
  obtain ⟨handler, found, copy, deliveredAt, past⟩ := refused.execution
  obtain ⟨after, present, continued⟩ := step.handler_stays found
  refine
    { execution := ⟨after, present, continued.copy.trans copy,
        continued.deliveredAt.trans deliveredAt, (continued.past past).1⟩
      checked := refused.checked.mono taken
      delivered := refused.delivered
      before := refused.before
      tried := refused.tried.trans (State.clock_step taken)
      locked := step.remembers _ refused.locked
      taken := refused.taken
      inForce := refused.inForce
      lockless := fun order time noted => ?_ }
  rcases step.history_cases rfl noted with
    old | ⟨mover, peer, result, ended, events, action, here, moved, _, new⟩
  · exact refused.lockless order time old
  · generalize s'.redis = store at moved
    cases moved with
    | lockTaken reply suspended =>
      -- it would have to be at its lock attempt again
      cases List.mem_singleton.mp new
      cases found.symm.trans here
      rw [suspended] at past
      cases past
    | _ => simp at new

theorem Refused.of_handler {r : Refusal} {handler : Handler} (refused : Refused stock s orderId r)
    (own : r.handler = id) (found : s.handlers[id]? = some handler) :
    r.copy = handler.copy ∧ r.deliveredAt = handler.deliveredAt := by
  obtain ⟨same, present, copy, deliveredAt, _⟩ := refused.execution
  rw [own, found] at present
  cases present
  exact ⟨copy.symm, deliveredAt.symm⟩

theorem Unmarked.mono {handler : Handler} (unmarked : Unmarked stock s id handler)
    (taken : s.step a = some s') : Unmarked stock s' id handler := by
  obtain ⟨seen, checked, delivered⟩ := unmarked
  exact ⟨seen, checked.mono taken, delivered⟩

theorem TrialInv.mono {handler : Handler} (inv : TrialInv stock s id handler)
    (taken : s.step a = some s') : TrialInv stock s' id handler where
  read reply suspended := by
    obtain ⟨nonempty, unmarked⟩ := inv.read reply suspended
    exact ⟨nonempty, fun none => (unmarked none).mono taken⟩
  locking suspended := (inv.locking suspended).mono taken
  refused suspended := by
    obtain ⟨r, refused, own⟩ := inv.refused suspended
    exact ⟨r, refused.mono taken, own⟩

/-- An execution before its check ended, or past its attempt. -/
theorem TrialInv.blank {handler : Handler}
    (unread : ∀ reply, handler.pc ≠ .checked (.resolved reply)) (unlocked : handler.pc ≠ .locking)
    (unrefused : handler.pc ≠ .locked (.resolved false)) : TrialInv stock s id handler where
  read reply suspended := absurd suspended (unread reply)
  locking suspended := absurd suspended unlocked
  refused suspended := absurd suspended unrefused

theorem TrialInv.settled {handler after : Handler} {result : CallResult} {events : List Event}
    (inv : TrialInv stock s id handler) (reachable : (system stock).Reachable anyStep s)
    (action : a = .handlerSettles id result) (found : s.handlers[id]? = some handler)
    (present : s'.handlers[id]? = some after) (taken : s.step a = some s')
    (moved : Settles s.redis s.now id handler s.stored result s'.redis after events)
    (history : s'.history = events ++ s.history) : TrialInv stock s' id after := by
  have redis := redis_invariant reachable
  generalize s'.redis = store at moved
  cases moved with
  | checked suspended answered =>
    refine ⟨fun reply read => ?_, by simp, by simp⟩
    simp only [HandlerPc.checked.injEq, Settled.resolved.injEq] at read
    constructor
    · -- only the text "true" is ever stored there
      rintro rfl
      obtain ⟨value, got, empty⟩ := Option.map_eq_some_iff.mp read
      obtain ⟨entry, live, same⟩ := Option.map_eq_some_iff.mp got
      have text := (redis.marks _ entry (ExpiringStore.live_eq_some_iff.mp live).1).1
      rw [same, empty] at text
      exact absurd text (by decide)
    · rintro rfl
      have absent := ExpiringStore.get_eq_none_iff.mp (Option.map_eq_none_iff.mp read)
      subst action answered
      exact ⟨s, ⟨reachable, ⟨handler, found, rfl, suspended⟩, absent, s', taken, .refl⟩,
        ((copies_invariant reachable).2 id handler found).past⟩
  | lockRefused entry suspended live answered =>
    refine ⟨by simp, by simp, fun _ => ?_⟩
    obtain ⟨seen, checked, delivered⟩ := inv.locking suspended
    -- the live entry that refused the attempt was noted down when it was stored
    obtain ⟨stored, inForce⟩ := ExpiringStore.live_eq_some_iff.mp live
    obtain ⟨time, past, noted, ends⟩ := redis.locks _ entry stored
    refine ⟨⟨id, handler.copy, handler.deliveredAt, seen, s.now, entry.value.writer, time⟩, ?_, rfl⟩
    exact
      { execution := ⟨_, present, rfl, rfl, rfl⟩
        checked := checked.mono taken
        delivered := delivered
        before := checked.past
        tried := State.clock_step taken
        locked := (consumerStep taken).remembers _ noted
        taken := past
        inForce := by rw [← ends]; exact inForce
        lockless := fun order since stored => by
          -- its one attempt was this one
          rw [history] at stored
          obtain ⟨same, here, _, ended, _⟩ :=
            (attempts_invariant reachable).locked order id since stored
          cases found.symm.trans here
          rw [suspended] at ended
          cases ended }
  | lockTaken reply suspended free told =>
    apply TrialInv.blank (by simp) (by simp)
    rcases told with rfl | ⟨rfl, _⟩ <;> simp
  | deleted pc suspended | deleteLost pc suspended =>
    rcases afterDel_cases suspended with ⟨_, rfl⟩ | ⟨_, _, rfl⟩
    · exact .blank (by simp) (by simp) (by simp)
    · exact .blank (by simp) (by simp) (by simp)
  | _ => exact .blank (by simp) (by simp) (by simp)

theorem TrialInv.resumed {handler : Handler} {message : Message} {fresh : CopyId}
    {ops : ChannelOps} {segment : Segment} (inv : TrialInv stock s id handler)
    (taken : s.step a = some s') (moved : Continues message fresh ops handler.pc segment) :
    TrialInv stock s' id { handler with pc := segment.pc } := by
  generalize suspended : handler.pc = pc at moved
  cases moved with
  | unprocessed reply absent =>
    obtain ⟨nonempty, unmarked⟩ := inv.read reply suspended
    -- the falsy replies are null and the empty string
    have none : reply = none := absent.resolve_right nonempty
    exact ⟨by simp, fun _ => (unmarked none).mono taken, by simp⟩
  | _ => exact .blank (by simp) (by simp) (by simp)

theorem TrialsInv.step (inv : TrialsInv stock s) (reachable : (system stock).Reachable anyStep s)
    (taken : s.step a = some s') : TrialsInv stock s' := by
  intro id after found
  cases (consumerStep taken).handler found with
  | kept old => exact (inv id after old).mono taken
  | delivered copy since fresh held waiting start =>
    rcases start with ⟨checking, _⟩ | rejected
    · exact .blank (by simp [checking]) (by simp [checking]) (by simp [checking])
    · exact .blank (by simp [rejected]) (by simp [rejected]) (by simp [rejected])
  | settled handler result events action old moved history =>
    exact (inv id handler old).settled reachable action old found taken moved history
  | resumed handler sendThrows copy segment action old held moved copies same =>
    subst same
    exact (inv id handler old).resumed taken moved
  | crashed handler old same =>
    subst same
    apply TrialInv.blank
    all_goals cases handler.pc <;> simp [HandlerPc.crash]

end Steps

theorem trials_invariant {stock : Int → Option Nat} {s : State}
    (reachable : (system stock).Reachable anyStep s) : TrialsInv stock s := by
  apply reachable.invariant (I := TrialsInv stock)
  · rintro s rfl id handler found
    cases found
  · intro s a s' before inv _ taken
    exact inv.step before taken

/-! ### Hops -/

/-- Execution `mover`, given the copy `before`, was at `pc` when it published `copy`. -/
structure Hop (stock : Int → Option Nat) (s : State) (copy : Copy) (mover : HandlerId)
    (handler : Handler) (before : Copy) (pc : HandlerPc) : Prop where
  found : s.handlers[mover]? = some handler
  held : s.copies[handler.copy]? = some before
  alive : before.queue ≠ .dlq
  delivered : before.publishedAt + before.queue.delay ≤ handler.deliveredAt
  published : handler.deliveredAt ≤ copy.publishedAt
  names : start before.message.content = .ok handler.orderId
  site : Republishes before.message pc copy.queue copy.message
  refused : pc = .locked (.resolved false) → ∃ r, Refused stock s handler.orderId r ∧
    r.handler = mover ∧ r.triedAt ≤ copy.publishedAt

def HopsInv (stock : Int → Option Nat) (s : State) : Prop :=
  ∀ (id : CopyId) (copy : Copy) (mover : HandlerId) (parent : CopyId),
    s.copies[id]? = some copy → copy.source = some (mover, parent) →
    ∃ handler before pc, handler.copy = parent ∧ Hop stock s copy mover handler before pc

section Steps

variable {stock : Int → Option Nat} {s s' : State} {a : Action} {copy before : Copy}
  {mover : HandlerId} {handler : Handler} {pc : HandlerPc}

theorem Hop.mono (hop : Hop stock s copy mover handler before pc) (taken : s.step a = some s')
    (place : Place) :
    ∃ handler' before', handler'.copy = handler.copy ∧
      Hop stock s' { copy with place } mover handler' before' pc := by
  obtain ⟨after, present, continued⟩ := (consumerStep taken).handler_stays hop.found
  obtain ⟨elsewhere, stays⟩ := copies_stay taken hop.held
  refine ⟨after, { before with place := elsewhere }, continued.copy, ?_⟩
  exact
    { found := present
      held := by rw [continued.copy]; exact stays
      alive := hop.alive
      delivered := by rw [continued.deliveredAt]; exact hop.delivered
      published := by rw [continued.deliveredAt]; exact hop.published
      names := by rw [continued.orderId]; exact hop.names
      site := hop.site
      refused := fun attempt => by
        obtain ⟨r, refused, own, tried⟩ := hop.refused attempt
        rw [continued.orderId]
        exact ⟨r, refused.mono taken, own, tried⟩ }

/-- The hop of a copy that this step publishes. -/
theorem Hop.fresh {queue : Queue} {message : Message} {id : CopyId}
    (reachable : (system stock).Reachable anyStep s) (taken : s.step a = some s')
    (found : s.handlers[mover]? = some handler) (held : s.copies[handler.copy]? = some before)
    (site : Republishes before.message handler.pc queue message)
    (waits : s'.handlers[mover]? = some { handler with pc := .confirming id }) :
    ∃ before', Hop stock s'
      ⟨message, queue, handler.channel, some (mover, handler.copy), s.now, .wire⟩ mover
      { handler with pc := .confirming id } before' handler.pc := by
  obtain ⟨place, stays⟩ := copies_stay taken held
  obtain ⟨given, same, ready, reads⟩ := ((copies_invariant reachable).2 mover handler found).given
  cases held.symm.trans same
  refine ⟨{ before with place }, ?_⟩
  exact
    { found := waits
      held := stays
      alive := ready.1
      delivered := ready.2
      published := ((copies_invariant reachable).2 mover handler found).past
      names := reads site.not_rejected
      site := site
      refused := fun attempt => by
        obtain ⟨r, refused, own⟩ := (trials_invariant reachable mover handler found).refused attempt
        exact ⟨r, refused.mono taken, own, refused.tried⟩ }

theorem HopsInv.step (inv : HopsInv stock s) (reachable : (system stock).Reachable anyStep s)
    (taken : s.step a = some s') : HopsInv stock s' := by
  intro id after mover parent found source
  cases copyStep taken found with
  | moved old present placed same =>
    rw [same] at source ⊢
    obtain ⟨handler, before, pc, own, hop⟩ := inv id old mover parent present source
    obtain ⟨handler', before', copy, hop'⟩ := hop.mono taken after.place
    exact ⟨handler', before', pc, copy.trans own, hop'⟩
  | published host event rest channel fresh suspended made =>
    rw [made] at source
    cases source
  | republished actor handler given queue message fresh present held site made waits =>
    subst made
    cases source
    obtain ⟨before, hop⟩ := Hop.fresh reachable taken present held site waits
    exact ⟨{ handler with pc := .confirming id }, before, handler.pc, rfl, hop⟩

end Steps

theorem hops_invariant {stock : Int → Option Nat} {s : State}
    (reachable : (system stock).Reachable anyStep s) : HopsInv stock s := by
  apply reachable.invariant (I := HopsInv stock)
  · rintro s rfl id copy mover parent found
    cases found
  · intro s a s' before inv _ taken
    exact inv.step before taken

end FlashSaleLab
