import FlashSaleLab.Consumer.Lineage

/-!
# Retry budgets

Three kinds of failure send a message round again, each up to a limit of its own, but there are
only two counters: failures of Redis and failures of the processing share `retry-count`. A failure
of one of these two kinds uses up the budget of the other.
-/
namespace FlashSaleLab

open OrderNotificationConsumer Transition

inductive Failure where
  /-- The processed check or the lock attempt threw. -/
  | redis
  | lockHeld
  | processing
  deriving DecidableEq

/-- The failure an execution has met when it goes on after this await. -/
def HandlerPc.failure : HandlerPc → Option Failure
  | .checked .rejected | .locked .rejected => some .redis
  | .locked (.resolved false) => some .lockHeld
  | .cleanedUp => some .processing
  | _ => none

namespace Failure

/-- Where a message waits for its next attempt. -/
def retryQueue : Failure → Queue
  | .redis => .retry
  | .lockHeld => .processingRetry
  | .processing => .notification

/-- Which failure of this kind is to be dead-lettered. -/
def budget : Failure → Nat
  | .redis | .lockHeld => 4
  | .processing => 2

/-- How many failures `retry-count` counts. -/
def retryCount (failures : List Failure) : Nat :=
  failures.count .redis + failures.count .processing

/-- The limit the code compares with is reached before this failure. -/
def Exhausted (failure : Failure) (before : List Failure) : Prop :=
  match failure with
  | .redis => 3 ≤ retryCount before
  | .lockHeld => 3 ≤ before.count .lockHeld
  | .processing => 1 ≤ retryCount before

/-- The other kind has not used up the budget: no processing failure comes before the third failure
of Redis, and no failure of Redis before the first one of the processing. -/
def Unshared (failure : Failure) (before : List Failure) : Prop :=
  match failure with
  | .redis => ¬(before.count .redis = 2 ∧ .processing ∈ before)
  | .lockHeld => True
  | .processing => ¬(.redis ∈ before ∧ .processing ∉ before)

end Failure

/-- In a run that ends in `s` the copy `id` descends from a publication, through these failures of
the executions that were given its ancestors. The latest failure comes first. -/
inductive Descends (stock : Int → Option Nat) : State → CopyId → List Failure → Prop
  | published (s s' : State) (a : Action) (copy : Copy)
      (reachable : (system stock).Reachable anyStep s) (taken : s.step a = some s')
      (made : s'.copies[s.copies.length]? = some copy) (fresh : copy.source = none) :
      Descends stock s' s.copies.length []
  | failed (s s' : State) (a : Action) (copy : Copy) (parent : CopyId) (before : List Failure)
      (mover : HandlerId) (handler : Handler) (failure : Failure)
      (lineage : Descends stock s parent before) (taken : s.step a = some s')
      (found : s.handlers[mover]? = some handler) (failed : handler.pc.failure = some failure)
      (made : s'.copies[s.copies.length]? = some copy)
      (source : copy.source = some (mover, parent)) :
      Descends stock s' s.copies.length (failure :: before)
  | later (s s' : State) (a : Action) (id : CopyId) (failures : List Failure)
      (lineage : Descends stock s id failures) (taken : s.step a = some s') :
      Descends stock s' id failures

/-- What failures a message may have had that is still tried. -/
structure WithinBudgets (failures : List Failure) : Prop where
  retries : Failure.retryCount failures ≤ 3
  processing : failures.count .processing ≤ 1
  locks : failures.count .lockHeld ≤ 3

/-- What a copy outside the DLQ carries after these failures. -/
structure Retried (failures : List Failure) (message : Message) : Prop where
  counts : message.Counts (Failure.retryCount failures) (failures.count .lockHeld)
  within : WithinBudgets failures

/-- The copy that a failure published is in the DLQ, or tried again. -/
inductive AfterFailure (failure : Failure) (before : List Failure) (queue : Queue)
    (message : Message) : Prop
  | deadLettered (dlq : queue = .dlq) (exhausted : failure.Exhausted before)
  | retried (again : queue = failure.retryQueue) (left : ¬failure.Exhausted before)
      (carries : Retried (failure :: before) message)

section Sites

variable {message message' : Message} {pc : HandlerPc} {queue : Queue} {failure : Failure}
  {before : List Failure}

/-- One more failure counted by `retry-count`. -/
theorem Retried.retry (carried : Retried before message) (shared : failure ≠ .lockHeld)
    (below : Failure.retryCount before < 3)
    (first : failure = .processing → Failure.retryCount before = 0) :
    Retried (failure :: before)
      { message with
        headers := message.headers.set "retry-count"
          (.number (JsNumber.real (Failure.retryCount before : Nat)).increment) } := by
  obtain ⟨⟨retry, processing⟩, within⟩ := carried
  have added : Failure.retryCount (failure :: before) = Failure.retryCount before + 1 := by
    cases failure with
    | lockHeld => exact absurd rfl shared
    | redis | processing => simp [Failure.retryCount]; omega
  have kept : (failure :: before).count .lockHeld = before.count .lockHeld := by
    simp [shared]
  refine ⟨⟨?_, ?_⟩, ⟨?_, ?_, ?_⟩⟩
  · rw [Headers.count_set_self, JsNumber.increment_natCast, added]
  · rw [Republishes.count_retry, processing, kept]
  · rw [added]
    exact below
  · have counted := within.processing
    cases failure with
    | lockHeld => exact absurd rfl shared
    | redis => simpa using counted
    | processing =>
      have none := first rfl
      simp only [Failure.retryCount] at none
      simp only [List.count_cons_self]
      omega
  · rw [kept]
    exact within.locks

/-- One more held lock. -/
theorem Retried.lock (carried : Retried before message) (below : before.count .lockHeld < 3) :
    Retried (.lockHeld :: before)
      { message with
        headers := message.headers.set "processing-retry-count"
          (.number (JsNumber.real (before.count .lockHeld : Nat)).increment) } := by
  obtain ⟨⟨retry, processing⟩, within⟩ := carried
  have kept : Failure.retryCount (.lockHeld :: before) = Failure.retryCount before := by
    simp [Failure.retryCount]
  refine ⟨⟨?_, ?_⟩, ⟨?_, ?_, ?_⟩⟩
  · rw [Republishes.count_processing, retry, kept]
  · rw [Headers.count_set_self, JsNumber.increment_natCast, List.count_cons_self]
  · rw [kept]
    exact within.retries
  · simpa using within.processing
  · rw [List.count_cons_self]
    exact below

/-- What the publish site of a failure makes of a message that is still tried. -/
theorem Retried.site (carried : Retried before message) (failed : pc.failure = some failure)
    (site : Republishes message pc queue message') :
    AfterFailure failure before queue message' := by
  have counts := carried.counts
  cases site with
  | redisExhausted pc fails retryCount count limit =>
    cases count.symm.trans counts.1
    simp only [JsNumber.atLeast_natCast, decide_eq_true_eq] at limit
    cases fails with
    | check | lock =>
      cases failed
      exact .deadLettered rfl limit
    | ack => cases failed
  | redisRetry pc fails retryCount count below =>
    cases count.symm.trans counts.1
    simp only [JsNumber.atLeast_natCast, decide_eq_false_iff_not] at below
    cases fails with
    | check | lock =>
      cases failed
      exact .retried rfl below
        (carried.retry (by decide) (Nat.lt_of_not_le below) fun other => by cases other)
    | ack => cases failed
  | lockExhausted processingRetryCount count limit =>
    cases failed
    cases count.symm.trans counts.2
    simp only [JsNumber.atLeast_natCast, decide_eq_true_eq, maxProcessingRetries] at limit
    exact .deadLettered rfl limit
  | lockRetry processingRetryCount count below =>
    cases failed
    cases count.symm.trans counts.2
    simp only [JsNumber.atLeast_natCast, decide_eq_false_iff_not, maxProcessingRetries] at below
    exact .retried rfl below (carried.lock (Nat.lt_of_not_le below))
  | processingExhausted retryCount count limit =>
    cases failed
    cases count.symm.trans counts.1
    simp only [JsNumber.atLeast_natCast, decide_eq_true_eq] at limit
    exact .deadLettered rfl limit
  | processingRetry retryCount count below =>
    cases failed
    cases count.symm.trans counts.1
    simp only [JsNumber.atLeast_natCast, decide_eq_false_iff_not] at below
    have none : Failure.retryCount before = 0 := by omega
    exact .retried rfl below (carried.retry (by decide) (by omega) fun _ => none)

end Sites

/-- What holds of a copy with these failures behind it. -/
def Carried (copy : Copy) : List Failure → Prop
  | [] => copy.queue = .notification ∧ Retried [] copy.message
  | failure :: before =>
    WithinBudgets before ∧ AfterFailure failure before copy.queue copy.message

theorem Carried.alive {copy : Copy} {failures : List Failure} (carried : Carried copy failures)
    (alive : copy.queue ≠ .dlq) : Retried failures copy.message := by
  cases failures with
  | nil => exact carried.2
  | cons failure before =>
    cases carried.2 with
    | deadLettered dlq => exact absurd dlq alive
    | retried again left carries => exact carries

theorem retried_published (orderId : Rat) (requestId : String) :
    Retried [] (RabbitMqService.message orderId requestId) :=
  ⟨message_counts orderId requestId, ⟨Nat.zero_le _, Nat.zero_le _, Nat.zero_le _⟩⟩

theorem descends_reachable {stock : Int → Option Nat} {s : State} {id : CopyId}
    {failures : List Failure} (lineage : Descends stock s id failures) :
    (system stock).Reachable anyStep s := by
  induction lineage with
  | published s s' a copy reachable taken => exact .step reachable trivial taken
  | failed s s' a copy parent before mover handler failure lineage taken found failed made source ih
  | later s s' a id failures lineage taken ih => exact .step ih trivial taken

/-- The counters of a copy tell the failures of its lineage. -/
theorem descends_carried {stock : Int → Option Nat} {s : State} {id : CopyId}
    {failures : List Failure} (lineage : Descends stock s id failures) :
    ∃ copy, s.copies[id]? = some copy ∧ Carried copy failures := by
  -- along the run: copies keep their queue and message, and a new one has an origin
  induction lineage with
  | published s s' a copy reachable taken made fresh =>
    refine ⟨copy, made, ?_⟩
    cases copyStep taken made with
    | moved before old => exact absurd (Registry.lt_of_found old) (Nat.lt_irrefl _)
    | published host event rest channel _ suspended same =>
      subst same
      exact ⟨rfl, retried_published _ _⟩
    | republished mover handler parent queue message _ found held site same =>
      subst same
      cases fresh
  | failed s s' a copy parent before mover handler failure lineage taken found failed made source
      ih =>
    refine ⟨copy, made, ?_⟩
    cases copyStep taken made with
    | moved before old => exact absurd (Registry.lt_of_found old) (Nat.lt_irrefl _)
    | published host event rest channel _ suspended same =>
      subst same
      cases source
    | republished mover' handler' parentCopy queue message _ found' held site same =>
      subst same
      cases source
      cases found.symm.trans found'
      obtain ⟨ancestor, there, carried⟩ := ih
      cases held.symm.trans there
      -- the execution was given the parent, so that is not in the DLQ
      have handlers := (copies_invariant (descends_reachable lineage)).2
      obtain ⟨given, delivered, ready, _⟩ := (handlers mover handler found).given
      cases held.symm.trans delivered
      have tried := carried.alive ready.1
      exact ⟨tried.within, tried.site failed site⟩
  | later s s' a id failures lineage taken ih =>
    obtain ⟨copy, found, carried⟩ := ih
    obtain ⟨place, stays⟩ := copies_stay taken found
    refine ⟨_, stays, ?_⟩
    cases failures with
    | nil => exact carried
    | cons failure before => exact carried

/-- On a closed channel the duplicate's ack throws, and so does the publish after it. -/
theorem duplicate_unsent {s : State} {message : Message} {fresh : CopyId} {channel : ChannelId}
    {sendThrows : Bool} {text : String} {segment : Segment}
    (resumed : resume message fresh (s.channelOps channel sendThrows)
      (.checked (.resolved (some text))) = some segment) : segment.sent = none := by
  simp only [resume] at resumed
  split at resumed
  · cases resumed
    rfl
  · split at resumed
    next threw =>
      cases resumed
      have closed : (s.channelOps channel sendThrows).sendThrows = true := by
        simp only [State.channelOps] at threw ⊢
        simp [threw]
      unfold redisFailed
      split
      · rfl
      · split <;> simp [publish, closed, nackAndReturn]
    · cases resumed
      rfl

/-- A copy that a step makes is a publication, or a failure's. -/
theorem new_copy_cases {s s' : State} {a : Action} {copy : Copy} (taken : s.step a = some s')
    (made : s'.copies[s.copies.length]? = some copy) :
    copy.source = none ∨ ∃ mover handler failure parent, s.handlers[mover]? = some handler ∧
      handler.pc.failure = some failure ∧ s.copies[handler.copy]? = some parent ∧
      copy.source = some (mover, handler.copy) := by
  obtain ⟨t, acts, rfl⟩ := State.step_cases taken
  cases acts with
  | published =>
    rcases Registry.of_added made with old | ⟨_, rfl⟩
    · exact absurd (Registry.lt_of_found old) (Nat.lt_irrefl _)
    · exact Or.inl rfl
  | handlerResumed mover handler sendThrows parent segment found held resumed =>
    simp only [State.runSegment] at made
    cases sent : segment.sent with
    | none =>
      refine absurd (Registry.lt_of_found made) ?_
      rw [sent]
      cases segment.settled <;> simp [Copies.settle]
    | some pair =>
      right
      have moved := resume_cases resumed
      generalize here : handler.pc = pc at moved
      cases moved with
      | republished pc queue message site =>
        rcases Registry.of_added made with old | ⟨_, rfl⟩
        · exact absurd (Registry.lt_of_found old) (Nat.lt_irrefl _)
        obtain ⟨failure, failed⟩ : ∃ failure, handler.pc.failure = some failure := by
          rw [here]
          cases site with
          | redisExhausted pc fails | redisRetry pc fails =>
            cases fails with
            | check | lock => exact ⟨.redis, rfl⟩
            | ack text nonempty =>
              -- nothing is sent after the duplicate's ack threw
              rw [here] at resumed
              cases sent.symm.trans (duplicate_unsent resumed)
          | lockExhausted | lockRetry => exact ⟨.lockHeld, rfl⟩
          | processingExhausted | processingRetry => exact ⟨.processing, rfl⟩
        exact ⟨mover, handler, failure, parent, found, failed, held, rfl⟩
      | _ => cases sent
  | _ =>
    -- any other step leaves the number of copies as it is
    refine absurd (Registry.lt_of_found made) ?_
    simp [Copies.move, Copies.dropChannels, State.crash]

/-- Every copy of every run has its lineage. -/
theorem every_copy_descends {stock : Int → Option Nat} {s : State}
    (reachable : (system stock).Reachable anyStep s) :
    ∀ id copy, s.copies[id]? = some copy → ∃ failures, Descends stock s id failures := by
  induction reachable with
  | init start =>
    cases start
    intro id copy found
    cases found
  | @step s a s' before permitted taken ih =>
    intro id copy found
    by_cases old : id < s.copies.length
    · obtain ⟨failures, lineage⟩ := ih id s.copies[id] (List.getElem?_eq_getElem old)
      exact ⟨failures, .later s s' a id failures lineage taken⟩
    · -- a step makes at most one copy
      have fresh : id = s.copies.length := by
        cases copyStep taken found with
        | moved before present => exact absurd (Registry.lt_of_found present) old
        | published host event rest channel fresh => exact fresh
        | republished mover handler parent queue message fresh => exact fresh
      subst fresh
      rcases new_copy_cases taken found with none | ⟨mover, handler, failure, parent, present,
        failed, held, source⟩
      · exact ⟨[], .published s s' a copy before taken found none⟩
      · obtain ⟨failures, lineage⟩ := ih handler.copy parent held
        exact ⟨failure :: failures, .failed s s' a copy handler.copy failures mover handler failure
          lineage taken present failed found source⟩

/-- The limits of the code are the budgets exactly where the budget is not shared. -/
theorem exhausted_iff {failure : Failure} {before : List Failure} (within : WithinBudgets before) :
    (failure.Exhausted before ↔ before.count failure + 1 = failure.budget) ↔
      failure.Unshared before := by
  obtain ⟨retries, processing, locks⟩ := within
  cases failure with
  | redis =>
    simp only [Failure.Exhausted, Failure.Unshared, Failure.retryCount, Failure.budget,
      ← List.count_pos_iff] at *
    omega
  | lockHeld =>
    simp only [Failure.Exhausted, Failure.Unshared, Failure.budget, iff_true]
    omega
  | processing =>
    simp only [Failure.Exhausted, Failure.Unshared, Failure.retryCount, Failure.budget,
      ← List.count_pos_iff] at *
    omega

/-- **Retry budgets.** A failure is retried or dead-lettered; it is dead-lettered exactly when it
is the last one its kind is allowed if and only if the other kind has not used up the budget. -/
theorem budgets_independent_iff (stock : Int → Option Nat) (s : State) (id : CopyId)
    (failure : Failure) (before : List Failure) (copy : Copy)
    (lineage : Descends stock s id (failure :: before)) (found : s.copies[id]? = some copy) :
    (copy.queue = failure.retryQueue ∨ copy.queue = .dlq) ∧
    ((copy.queue = .dlq ↔ before.count failure + 1 = failure.budget) ↔
      failure.Unshared before) := by
  obtain ⟨copy', found', within, after⟩ := descends_carried lineage
  cases found.symm.trans found'
  rw [← exhausted_iff within]
  cases after with
  | deadLettered dlq exhausted => exact ⟨Or.inr dlq, by simp [dlq, exhausted]⟩
  | retried again left =>
    have alive : copy.queue ≠ .dlq := by
      rw [again]
      cases failure <;> decide
    exact ⟨Or.inl again, by simp [alive, left]⟩

section Runs

variable {stock : Int → Option Nat} {s : State} {id parent : CopyId} {failure : Failure}
  {failures : List Failure} {a : Action}

/-- The state after those of the actions that are possible. -/
def State.continued (stock : Int → Option Nat) (s : State) (actions : List Action) : State :=
  (system stock).play (fun _ _ => true) s actions

theorem State.continued_cons {s' : State} (taken : s.step a = some s') (rest : List Action) :
    s.continued stock (a :: rest) = s'.continued stock rest := by
  simp [State.continued, System.play, system, taken]

theorem Descends.continued (lineage : Descends stock s id failures) (actions : List Action) :
    Descends stock (s.continued stock actions) id failures := by
  induction actions generalizing s with
  | nil => exact lineage
  | cons a rest ih =>
    cases taken : s.step a with
    | none =>
      have stays : s.continued stock (a :: rest) = s.continued stock rest := by
        simp [State.continued, System.play, system, taken]
      rw [stays]
      exact ih lineage
    | some s' =>
      rw [State.continued_cons taken]
      exact ih (.later s s' a id failures lineage taken)

/-- The source of the copy that a step makes. -/
def State.newSource (s : State) (a : Action) : Option (Option (HandlerId × CopyId)) :=
  (s.step a).bind fun s' => (s'.copies[s.copies.length]?).map (·.source)

theorem newSource_some {source : Option (HandlerId × CopyId)} (made : s.newSource a = some source) :
    ∃ s' copy, s.step a = some s' ∧ s'.copies[s.copies.length]? = some copy ∧
      copy.source = source := by
  obtain ⟨s', taken, mapped⟩ := Option.bind_eq_some_iff.mp made
  obtain ⟨copy, found, same⟩ := Option.map_eq_some_iff.mp mapped
  exact ⟨s', copy, taken, found, same⟩

theorem Descends.of_publication (reachable : (system stock).Reachable anyStep s)
    (made : s.newSource a = some none) (fresh : s.copies.length = id) (rest : List Action) :
    Descends stock (s.continued stock (a :: rest)) id [] := by
  subst fresh
  obtain ⟨s', copy, taken, found, fresh⟩ := newSource_some made
  rw [State.continued_cons taken]
  exact Descends.continued (.published s s' a copy reachable taken found fresh) rest

theorem Descends.of_failure (lineage : Descends stock s parent failures) (mover : HandlerId)
    (met : (s.handlers[mover]?).bind (·.pc.failure) = some failure)
    (made : s.newSource a = some (some (mover, parent))) (fresh : s.copies.length = id)
    (rest : List Action) :
    Descends stock (s.continued stock (a :: rest)) id (failure :: failures) := by
  subst fresh
  obtain ⟨s', copy, taken, found, source⟩ := newSource_some made
  obtain ⟨handler, present, failed⟩ := Option.bind_eq_some_iff.mp met
  rw [State.continued_cons taken]
  exact Descends.continued (.failed s s' a copy parent failures mover handler failure lineage taken
    present failed found source) rest

end Runs

/-- The publisher has claimed the event of an order and goes on to publish it. -/
def claimedOrder : State := .after anyStep (fun _ => some 1) (publishedOrder.take 12)

/-- Its message is delivered, and the processed check fails. -/
def redisDown : State :=
  claimedOrder.continued (fun _ => some 1)
    [.publisherResumes 0 (some 0) false, .store 0, .deliver 0 0, .handlerSettles 0 (.failed false)]

/-- It is published to the retry queue and delivered again, and the notification fails. -/
def notificationDown : State :=
  redisDown.continued (fun _ => some 1)
    [.handlerResumes 0 false, .store 1, .handlerSettles 0 .ok, .handlerResumes 0 false,
      .receiveSettlement 0, .tick 5000, .deadLetter 1, .deliver 1 0, .handlerSettles 1 .ok,
      .handlerResumes 1 false, .handlerSettles 1 .ok, .handlerResumes 1 false,
      .handlerSettles 1 (.failed false), .handlerResumes 1 false, .handlerSettles 1 .ok]

/-- It is published once more, and stored. -/
def failedTwice : State :=
  notificationDown.continued (fun _ => some 1) [.handlerResumes 1 false, .store 2]

theorem redisDown_descends : Descends (fun _ => some 1) redisDown 0 [] :=
  .of_publication (State.after_reachable ..) (by decide +kernel) (by decide +kernel) _

theorem notificationDown_descends :
    Descends (fun _ => some 1) notificationDown 1 [.redis] :=
  redisDown_descends.of_failure 0 (by decide +kernel) (by decide +kernel)
    (by decide +kernel) _

theorem failedTwice_descends :
    Descends (fun _ => some 1) failedTwice 2 [.processing, .redis] :=
  notificationDown_descends.of_failure 1 (by decide +kernel) (by decide +kernel)
    (by decide +kernel) _

/-- The first failure of the processing is dead-lettered, because Redis failed once before. -/
theorem secondFailure_deadLettered :
    ¬∀ (stock : Int → Option Nat) (s : State) (id : CopyId) (failure : Failure)
      (before : List Failure) (copy : Copy), Descends stock s id (failure :: before) →
      s.copies[id]? = some copy →
      (copy.queue = .dlq ↔ before.count failure + 1 = failure.budget) := by
  intro claim
  have queue : (failedTwice.copies[2]?).map (·.queue) = some .dlq := by decide +kernel
  obtain ⟨copy, found, dlq⟩ := Option.map_eq_some_iff.mp queue
  have last := (claim _ failedTwice 2 .processing [.redis] copy failedTwice_descends found).mp dlq
  exact absurd last (by decide)

/-- The message is delivered and the notification fails; Redis does not execute the `del` of the
lock. -/
def lockLeft : State :=
  claimedOrder.continued (fun _ => some 1)
    [.publisherResumes 0 (some 0) false, .store 0, .deliver 0 0, .handlerSettles 0 .ok,
      .handlerResumes 0 false, .handlerSettles 0 .ok, .handlerResumes 0 false,
      .handlerSettles 0 (.failed false), .handlerResumes 0 false,
      .handlerSettles 0 (.failed false)]

/-- It is published and delivered again, and the lock is refused. -/
def lockRefused : State :=
  lockLeft.continued (fun _ => some 1)
    [.handlerResumes 0 false, .store 1, .handlerSettles 0 .ok, .handlerResumes 0 false,
      .receiveSettlement 0, .deliver 1 0, .handlerSettles 1 .ok, .handlerResumes 1 false,
      .handlerSettles 1 .ok]

/-- It waits for 35 s, and at its third delivery the processed check fails. -/
def checkDown : State :=
  lockRefused.continued (fun _ => some 1)
    [.handlerResumes 1 false, .store 2, .handlerSettles 1 .ok, .handlerResumes 1 false,
      .receiveSettlement 1, .tick 35000, .deadLetter 2, .deliver 2 0,
      .handlerSettles 2 (.failed false)]

def failedThrice : State :=
  checkDown.continued (fun _ => some 1) [.handlerResumes 2 false, .store 3]

theorem failedThrice_descends :
    Descends (fun _ => some 1) failedThrice 3 [.redis, .lockHeld, .processing] := by
  have processing : Descends (fun _ => some 1) lockLeft 0 [] :=
    .of_publication (State.after_reachable ..) (by decide +kernel) (by decide +kernel) _
  have lock : Descends (fun _ => some 1) lockRefused 1 [.processing] :=
    processing.of_failure 0 (by decide +kernel) (by decide +kernel) (by decide +kernel) _
  have redis : Descends (fun _ => some 1) checkDown 2 [.lockHeld, .processing] :=
    lock.of_failure 1 (by decide +kernel) (by decide +kernel) (by decide +kernel) _
  exact redis.of_failure 2 (by decide +kernel) (by decide +kernel) (by decide +kernel) _

/-- After a failure of the processing and a refused lock the failure of Redis is retried: it is the
first of four. -/
theorem thirdFailure_retried : ∃ copy, failedThrice.copies[3]? = some copy ∧
    copy.queue = .retry ∧
    (copy.queue = .dlq ↔
      [Failure.lockHeld, .processing].count .redis + 1 = Failure.redis.budget) := by
  obtain ⟨copy, found, _⟩ := descends_carried failedThrice_descends
  have budgets := budgets_independent_iff _ _ 3 .redis [.lockHeld, .processing] copy
    failedThrice_descends found
  have exact_ := budgets.2.mpr (by simp [Failure.Unshared])
  refine ⟨copy, found, ?_, exact_⟩
  rcases budgets.1 with again | dead
  · exact again
  · exact absurd (exact_.mp dead) (by decide)

end FlashSaleLab
