import FlashSaleLab.Broker.Copies
import FlashSaleLab.Consumer.RedisLog

/-!
# Lock attempts

An execution checks the processed key once and then tries the lock once. Of a refused attempt
stays on record whose lease refused it, and in which earlier state of the run the check found
the order unmarked.
-/
namespace FlashSaleLab

open OrderNotificationConsumer Transition

/-- Makes no lock attempt any more. -/
def HandlerPc.pastAttempt : HandlerPc → Bool
  | .checking => false
  | .checked _ => false
  | .locking => false
  | _ => true

/-- What an execution keeps from step to step. -/
structure Handler.Continued (before after : Handler) : Prop where
  copy : after.copy = before.copy
  orderId : after.orderId = before.orderId
  deliveredAt : after.deliveredAt = before.deliveredAt
  past : before.pc.pastAttempt = true →
    after.pc.pastAttempt = true ∧ after.triedAt = before.triedAt

theorem OrderNotificationConsumer.Settles.past {redis redis' : Redis} {now : Time}
    {id : HandlerId} {handler after : Handler} {stored : CopyId → Bool} {result : CallResult}
    {events : List Event} (moved : Settles redis now id handler stored result redis' after events)
    (past : handler.pc.pastAttempt = true) :
    after.pc.pastAttempt = true ∧ after.triedAt = handler.triedAt := by
  cases moved with
  | deleted pc suspended | deleteLost pc suspended =>
    rcases afterDel_cases suspended with ⟨_, rfl⟩ | ⟨_, _, rfl⟩
    · exact ⟨rfl, rfl⟩
    · exact ⟨rfl, rfl⟩
  | notified | notificationFailed | markStored | markLost | confirmed | unconfirmed =>
    exact ⟨rfl, rfl⟩
  -- an execution suspended at its check or attempt is not past it
  | checked suspended | checkFailed suspended | lockTaken reply suspended
  | lockRefused entry suspended | lockFailed suspended =>
    rw [suspended] at past
    cases past

theorem OrderNotificationConsumer.Continues.past {message : Message} {fresh : CopyId}
    {ops : ChannelOps} {pc : HandlerPc} {segment : Segment}
    (moved : Continues message fresh ops pc segment) (past : pc.pastAttempt = true) :
    segment.pc.pastAttempt = true := by
  cases moved with
  | unprocessed => cases past
  | _ => rfl

section Steps

variable {s s' : State} {a : Action} {id : HandlerId} {handler after : Handler}

theorem HandlerStep.continued (step : HandlerStep s a s' id after)
    (found : s.handlers[id]? = some handler) : handler.Continued after := by
  cases step with
  | kept old =>
    cases found.symm.trans old
    exact ⟨rfl, rfl, rfl, fun past => ⟨past, rfl⟩⟩
  | delivered copy since fresh =>
    exact absurd (fresh ▸ Registry.lt_of_found found) (Nat.lt_irrefl _)
  | settled before result events action old moved =>
    cases found.symm.trans old
    obtain ⟨copy, deliveredAt, orderId, _⟩ := moved.identity
    exact ⟨copy, orderId, deliveredAt, moved.past⟩
  | resumed before sendThrows copy segment action old held moved copies same =>
    cases found.symm.trans old
    subst same
    exact ⟨rfl, rfl, rfl, fun past => ⟨moved.past past, rfl⟩⟩
  | crashed before old same =>
    cases found.symm.trans old
    subst same
    refine ⟨rfl, rfl, rfl, fun past => ⟨?_, rfl⟩⟩
    cases handler.pc <;> simp [HandlerPc.crash, HandlerPc.pastAttempt]

/-- Executions stay. -/
theorem ConsumerStep.handler_stays (taken : ConsumerStep s a s')
    (found : s.handlers[id]? = some handler) :
    ∃ after, s'.handlers[id]? = some after ∧ handler.Continued after := by
  have present : ∃ after, s'.handlers[id]? = some after := by
    cases taken with
    | idle handlers => exact ⟨handler, by rw [handlers]; exact found⟩
    | delivered _ _ _ _ _ _ _ _ _ _ handlers =>
      exact ⟨handler, by rw [handlers]; exact Registry.added_of found⟩
    | settled mover _ _ after _ _ _ _ _ handlers
    | resumed mover _ _ _ after _ _ _ _ _ _ handlers =>
      by_cases same : id = mover
      · subst same
        exact ⟨_, by rw [handlers]; exact Registry.set_self found⟩
      · exact ⟨handler, by rw [handlers, Registry.set_other same]; exact found⟩
    | crashed host action now handlers =>
      exact ⟨_, by rw [handlers, List.getElem?_map, found]; rfl⟩
  obtain ⟨after, now⟩ := present
  exact ⟨after, now, (taken.handler now).continued found⟩

end Steps

/-! ### What the history tells of attempts -/

/-- Execution `id` made its lock attempt for `orderId` at `time`. -/
def Attempted (s : State) (orderId : Option Json) (id : HandlerId) (time : Time) : Prop :=
  ∃ handler, s.handlers[id]? = some handler ∧ handler.orderId = orderId ∧
    handler.pc.pastAttempt = true ∧ handler.triedAt = some time

/-- Who stored a lock tried it then, and who stored a processed key had tried the lock before. -/
structure AttemptsInv (s : State) : Prop where
  tried : ∀ (id : HandlerId) (handler : Handler) time, s.handlers[id]? = some handler →
    handler.triedAt = some time → time ≤ s.now
  locked : ∀ orderId id time, .lockStored orderId id time ∈ s.history →
    Attempted s orderId id time
  marked : ∀ orderId id time, .processedStored orderId id time ∈ s.history →
    ∃ since ≤ time, Attempted s orderId id since

section Steps

variable {s s' : State} {a : Action} {orderId : Option Json} {id : HandlerId} {time : Time}

theorem Attempted.mono (attempted : Attempted s orderId id time) (taken : ConsumerStep s a s') :
    Attempted s' orderId id time := by
  obtain ⟨handler, found, order, past, tried⟩ := attempted
  obtain ⟨after, present, continued⟩ := taken.handler_stays found
  obtain ⟨pastStill, same⟩ := continued.past past
  exact ⟨after, present, continued.orderId.trans order, pastStill, same.trans tried⟩

theorem Attempted.unique {since : Time} {other : Option Json}
    (attempted : Attempted s orderId id time) (again : Attempted s other id since) :
    time = since := by
  obtain ⟨handler, found, _, _, tried⟩ := attempted
  obtain ⟨same, present, _, _, triedToo⟩ := again
  cases found.symm.trans present
  simpa using tried.symm.trans triedToo

theorem OrderNotificationConsumer.Settles.tried {redis redis' : Redis} {now : Time}
    {handler after : Handler} {stored : CopyId → Bool} {result : CallResult} {events : List Event}
    (moved : Settles redis now id handler stored result redis' after events) :
    after.triedAt = handler.triedAt ∨ after.triedAt = some now := by
  cases moved with
  | lockTaken | lockRefused | lockFailed => exact Or.inr rfl
  | _ => exact Or.inl rfl

theorem AttemptsInv.tried_step (inv : AttemptsInv s) (later : s.now ≤ s'.now)
    (taken : ConsumerStep s a s') {after : Handler} (found : s'.handlers[id]? = some after)
    (tried : after.triedAt = some time) : time ≤ s'.now := by
  refine Nat.le_trans ?_ later
  cases taken.handler found with
  | kept old => exact inv.tried id after time old tried
  | delivered copy since fresh held waiting start deliveredAt unchecked untried =>
    cases untried.symm.trans tried
  | settled handler result events action old moved =>
    rcases moved.tried with same | now
    · exact inv.tried id handler time old (same.symm.trans tried)
    · cases now.symm.trans tried
      exact Nat.le_refl _
  | resumed handler sendThrows copy segment action old held moved copies same =>
    subst same
    exact inv.tried id handler time old tried
  | crashed handler old same =>
    subst same
    exact inv.tried id handler time old tried

theorem AttemptsInv.step (inv : AttemptsInv s) (holders : TriedInv s) (later : s.now ≤ s'.now)
    (taken : ConsumerStep s a s') : AttemptsInv s' where
  tried id after time found tried := inv.tried_step later taken found tried
  locked orderId id time noted := by
    rcases taken.history_cases rfl noted with
      old | ⟨mover, handler, result, after, events, action, found, moved, present, new⟩
    · exact (inv.locked orderId id time old).mono taken
    · generalize s'.redis = store at moved
      cases moved with
      | lockTaken reply suspended =>
        cases List.mem_singleton.mp new
        exact ⟨_, present, rfl, rfl, rfl⟩
      | _ => simp at new
  marked orderId id time noted := by
    rcases taken.history_cases rfl noted with
      old | ⟨mover, handler, result, after, events, action, found, moved, present, new⟩
    · obtain ⟨since, le, attempted⟩ := inv.marked orderId id time old
      exact ⟨since, le, attempted.mono taken⟩
    · generalize s'.redis = store at moved
      cases moved with
      | markStored suspended =>
        cases List.mem_singleton.mp new
        -- whoever marks holds the lock, so its attempt lies behind it
        obtain ⟨since, tried⟩ := holders id handler found (by rw [suspended]; rfl)
        exact ⟨since, inv.tried id handler since found tried, _, present, rfl, rfl, tried⟩
      | _ => simp at new

end Steps

theorem attempts_invariant {stock : Int → Option Nat} {allowed : State → Action → Prop} {s : State}
    (reachable : (system stock).Reachable allowed s) : AttemptsInv s := by
  have both : TriedInv s ∧ AttemptsInv s := by
    apply reachable.invariant (I := fun s => TriedInv s ∧ AttemptsInv s)
    · rintro s rfl
      refine ⟨tried_initial stock, ?_⟩
      constructor
      · intro id handler time found
        cases found
      · intro orderId id time noted
        cases noted
      · intro orderId id time noted
        cases noted
    · rintro s a s' _ ⟨holders, attempts⟩ _ taken
      have step := consumerStep taken
      exact ⟨holders.step step, attempts.step holders (State.clock_step taken) step⟩
  exact both.2

end FlashSaleLab
