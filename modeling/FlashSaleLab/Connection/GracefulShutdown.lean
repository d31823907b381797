import FlashSaleLab.Connection.Drain
import FlashSaleLab.Connection.Handlers

/-!
# A graceful shutdown

Every handler that a delivery ever started has finished when the hook calls `channel.close()`, and
it has acked, nacked or republished by then unless an exception ended it: `shutdown_drains`.
-/
namespace FlashSaleLab

open OrderNotificationConsumer (Outcomes Site firstAwait resume counterRead Keyed firstAwait_keyed
  redisFailed_site lockNotAcquired_site processingFailed_site)

namespace Execution

section Segments

variable {message : Message} {fresh : CopyId} {ops : ChannelOps} {pc : HandlerPc} {key : String}
  {segment : Segment}

/-- A publish site calls `sendToQueue`, and `nack` if that throws, unless the counter throws. -/
theorem callsIn_site (ops : ChannelOps) {block : ChannelOps → Segment}
    (resumes : ∀ ops', resume message 0 ops' pc = some (block ops'))
    (sites : ∀ ops', Site message key 0 ops' (block ops')) :
    callsIn message ops pc = true ∨ ∃ text, message.headers.count key = .error text := by
  -- a call counts whether or not it throws, so ask the site where the later ones work
  rcases sites { ops with ackThrows := false, nackThrows := false } with
    ⟨text, throws, _⟩ | ⟨n, queue, copy, _, published, _⟩
  · exact Or.inr ⟨text, throws⟩
  · left
    rw [callsIn, resumes, published]
    cases threw : ops.sendThrows <;>
      simp [OrderNotificationConsumer.publish, OrderNotificationConsumer.nackAndReturn]

/-- The segment at a publish site. -/
theorem ends_of_site {block : ChannelOps → Segment}
    (resumes : ∀ ops', resume message 0 ops' pc = some (block ops'))
    (sites : ∀ ops', Site message key 0 ops' (block ops')) (read : counterRead pc = some key)
    (taken : resume message 0 ops pc = some segment) :
    callsIn message ops pc = true ∨ (segment.pc = .rejected ∧
      ∃ key text, counterRead pc = some key ∧ message.headers.count key = .error text) := by
  rcases callsIn_site ops resumes sites with calls | ⟨text, throws⟩
  · exact Or.inl calls
  · cases (resumes ops).symm.trans taken
    rcases sites ops with ⟨_, _, rejected⟩ | ⟨n, _, _, converts, _, _⟩
    · exact Or.inr ⟨by rw [rejected], key, text, read, throws⟩
    · cases throws.symm.trans converts

/-- A segment that ends the execution settles the delivery or has republished, if no counter
throws. -/
theorem segment_ends (taken : resume message 0 ops pc = some segment)
    (ends : segment.pc = .returned ∨ segment.pc = .rejected) :
    callsIn message ops pc = true ∨ (segment.pc = .rejected ∧
      ∃ key text, counterRead pc = some key ∧ message.headers.count key = .error text) := by
  cases pc with
  | checked reply =>
    cases reply with
    | rejected =>
      exact ends_of_site (fun _ => rfl) (fun _ => redisFailed_site message 0 _) rfl taken
    | resolved reply =>
      cases reply with
      | none =>
        cases taken
        simp at ends
      | some text =>
        by_cases empty : text = ""
        · simp only [resume, empty, if_true, Option.some.injEq] at taken
          subst taken
          simp at ends
        · left
          simp [callsIn, resume, empty]
  | locked reply =>
    cases reply with
    | rejected =>
      exact ends_of_site (fun _ => rfl) (fun _ => redisFailed_site message 0 _) rfl taken
    | resolved acquired =>
      cases acquired with
      | true =>
        cases taken
        simp at ends
      | false =>
        exact ends_of_site (fun _ => rfl) (fun _ => lockNotAcquired_site message 0 _) rfl taken
  | notified reply =>
    cases reply with
    | resolved | rejected =>
      cases taken
      simp at ends
  | marked =>
    cases taken
    simp at ends
  | released =>
    left
    simp [callsIn, resume]
  | cleanedUp =>
    exact ends_of_site (fun _ => rfl) (fun _ => processingFailed_site message 0 _) rfl taken
  | confirmed reply =>
    left
    cases reply <;> simp [callsIn, resume, OrderNotificationConsumer.afterConfirm,
      OrderNotificationConsumer.nackAndReturn]
  | _ => cases taken

end Segments

variable {execution : Execution}

theorem start_unreturned {message : Message} : (start message).pc ≠ .returned := by
  unfold start firstAwait
  split <;> simp

/-- An execution that is over stays as it is. -/
theorem settle_over (outcomes : Outcomes) (settled : execution.promise ≠ .pending) :
    outcomes.settle execution.pc = none := by
  unfold promise at settled
  split at settled
  next ended => rw [ended]; rfl
  next ended => rw [ended]; rfl
  · exact absurd rfl settled

theorem resume_over (ops : ChannelOps) (settled : execution.promise ≠ .pending) :
    resume execution.message 0 ops execution.pc = none := by
  unfold promise at settled
  split at settled
  next ended => rw [ended]; rfl
  next ended => rw [ended]; rfl
  · exact absurd rfl settled

theorem settle_running {outcomes : Outcomes} {pc settled : HandlerPc}
    (awaited : outcomes.settle pc = some settled) : settled ≠ .returned ∧ settled ≠ .rejected := by
  cases pc with
  | checking | locking | notifying | marking | releasing | cleaningUp | confirming =>
    cases awaited
    simp
  | _ => cases awaited

end Execution

namespace ConsumerInstance

open Client (DrainInv Covered cancelSettled awaitedTasks)

variable {s s' : ConsumerInstance} {a : InstanceAction}

/-- The hook starts while no `connect()` is in progress, and a channel whose `cancel` has settled
gets no further delivery. -/
def permitted (s : ConsumerInstance) : InstanceAction → Prop
  | .protocol action => action = .shutdown → s.client.attempts = []
  | .deliver id _ => cancelSettled s.client id = false
  | _ => True

/-- Each task has its execution, and a task that has settled has one that is over. -/
structure HandlerInv (s : ConsumerInstance) : Prop where
  protocol : DrainInv s.client
  aligned : s.executions.length = s.client.tasks.length
  settled : ∀ (id : Nat) (task : DeliveryTask) (execution : Execution),
    s.client.tasks[id]? = some task → s.executions[id]? = some execution → task.finished = true →
      execution.promise ≠ .pending
  issued : ∀ (id : Nat) (execution : Execution), s.executions[id]? = some execution →
    execution.pc = .returned → execution.issued = true
  resolves : s.hookRejected = false

/-- The tasks that are drained never reject. -/
theorem drained_ne_rejected : s.drained ≠ .rejected := by
  unfold drained
  split
  · refine Promise.all_ne_rejected fun promise member => ?_
    obtain ⟨id, _, rfl⟩ := List.mem_map.mp member
    unfold task
    split <;> simp
  · simp

/-- An execution takes a step. -/
theorem HandlerInv.set (inv : HandlerInv s) {id : Nat} {execution later : Execution}
    (found : s.executions[id]? = some execution) (running : execution.promise = .pending)
    (issued : later.pc = .returned → later.issued = true) :
    HandlerInv { s with executions := s.executions.set id later } := by
  refine ⟨inv.protocol, by simpa using inv.aligned, ?_, ?_, inv.resolves⟩
  · intro other task there present placed finished
    rcases Registry.of_set placed with ⟨rfl, rfl⟩ | ⟨_, old⟩
    · exact absurd running (inv.settled other task execution present found finished)
    · exact inv.settled other task there present old finished
  · intro other there placed
    rcases Registry.of_set placed with ⟨rfl, rfl⟩ | ⟨_, old⟩
    · exact issued
    · exact inv.issued other there old

theorem HandlerInv.step (inv : HandlerInv s) (allowed : permitted s a)
    (acts : InstanceActs s a s') : HandlerInv s' := by
  cases acts with
  | protocol action client undelivered unfinished taken =>
    have kept := Client.acts_tasks undelivered unfinished (Client.step_acts taken)
    refine ⟨inv.protocol.step allowed (fun id same => absurd same (undelivered id)) taken, ?_, ?_,
      inv.issued, inv.resolves⟩
    · exact inv.aligned.trans (congrArg List.length kept.symm)
    · intro id task execution present
      exact inv.settled id task execution (kept ▸ present)
  | hookRejected ok rejected => exact absurd rejected drained_ne_rejected
  | delivered id message client taken =>
    have protocol := inv.protocol.step (by simp) (fun other same => by
      cases same
      exact allowed) taken
    cases Client.step_acts taken with
    | delivered _ held =>
      refine ⟨protocol, by simp [inv.aligned], ?_, ?_, inv.resolves⟩
      · intro other task execution present placed finished
        rcases Registry.of_added present with old | ⟨_, rfl⟩
        · rcases Registry.of_added placed with started | ⟨last, _⟩
          · exact inv.settled other task execution old started finished
          · have bound := Registry.lt_of_found old
            have aligned := inv.aligned
            omega
        · cases finished
      · intro other execution placed returned
        rcases Registry.of_added placed with old | ⟨_, rfl⟩
        · exact inv.issued other execution old returned
        · exact absurd returned Execution.start_unreturned
    | connectionClosed _ _ _ _ ends => cases ends
  | answered id outcomes execution pc found awaited =>
    have running : execution.promise = .pending := by
      by_contra settled
      cases (Execution.settle_over outcomes settled).symm.trans awaited
    refine inv.set found running fun returned => ?_
    exact absurd returned (Execution.settle_running awaited).1
  | resumed id ops execution segment found taken =>
    have running : execution.promise = .pending := by
      by_contra settled
      cases (Execution.resume_over ops settled).symm.trans taken
    -- `handleMessage` returns only after a call of its own
    refine inv.set found running fun returned => ?_
    rcases Execution.segment_ends taken (Or.inl returned) with calls | ⟨rejected, _⟩
    · simp [calls]
    · cases returned.symm.trans rejected
  | finished id execution client found settled taken =>
    have protocol := inv.protocol.step (by simp) (by simp) taken
    cases Client.step_acts taken with
    | finished _ running present =>
      refine ⟨protocol, by simpa using inv.aligned, ?_, inv.issued, inv.resolves⟩
      intro other task later placed there finished
      rcases Registry.of_set placed with ⟨rfl, _⟩ | ⟨_, old⟩
      · cases found.symm.trans there
        exact settled
      · exact inv.settled other task later old there finished
    | connectionClosed _ _ _ _ ends => cases ends

theorem handler_invariant (reachable : system.Reachable permitted s) : HandlerInv s := by
  refine reachable.invariant ?_ fun s a s' _ inv allowed taken => inv.step allowed (step_acts taken)
  rintro s rfl
  refine ⟨⟨.init rfl, ?_, ?_, ?_⟩, rfl, ?_, ?_, rfl⟩
  · intro down
    cases down
  · intro id held found
    cases found
  · intro tasks awaited
    cases awaited
  · intro id task execution found
    cases found
  · intro id execution found
    cases found

/-- The hook has waited for every execution. -/
theorem HandlerInv.ended (inv : HandlerInv s) (closes : s.client.closing = true) {id : Nat}
    {execution : Execution} (found : s.executions[id]? = some execution) :
    execution.promise ≠ .pending := by
  have bound : id < s.client.tasks.length := inv.aligned ▸ Registry.lt_of_found found
  have present := List.getElem?_eq_getElem bound
  refine inv.settled id _ execution present found ?_
  by_contra running
  have awaited := Client.awaited_of_closing closes
  -- a task still running would be one that the hook waits for
  cases inv.protocol.covered [] awaited id _ present (by simpa using running)

/-- And no execution starts or moves any more. -/
theorem HandlerInv.sealed (inv : HandlerInv s) (closes : s.client.closing = true)
    (allowed : permitted s a) (acts : InstanceActs s a s') :
    s'.executions = s.executions ∧ s'.client.closing = true := by
  have began := inv.protocol.began closes
  cases acts with
  | protocol action client undelivered unfinished taken =>
    exact ⟨rfl, (inv.protocol.hookActs began taken).closing closes⟩
  | hookRejected => exact ⟨rfl, closes⟩
  | delivered id message client taken =>
    cases Client.step_acts taken with
    | delivered _ held found opened consuming =>
      -- it would have come after `cancel` settled
      have early := inv.protocol.attended.undelivered allowed found consuming
      cases early.symm.trans (Client.awaited_of_closing closes)
    | connectionClosed _ _ _ _ ends => cases ends
  | answered id outcomes execution pc found awaited =>
    cases (Execution.settle_over outcomes (inv.ended closes found)).symm.trans awaited
  | resumed id ops execution segment found taken =>
    cases (Execution.resume_over ops (inv.ended closes found)).symm.trans taken
  | finished id execution client found settled taken =>
    exact ⟨rfl, (inv.protocol.hookActs began taken).closing closes⟩

theorem sealed_steps (reachable : system.Reachable permitted s) (closes : s.client.closing = true)
    (steps : system.Steps permitted s s') : s'.executions = s.executions := by
  have kept : s'.client.closing = true ∧ s'.executions = s.executions := by
    refine reachable.stable (P := fun later => later.client.closing = true ∧
      later.executions = s.executions) ?_ steps ⟨closes, rfl⟩
    rintro before a after reached ⟨closes, same⟩ allowed taken
    have sealing := (handler_invariant reached).sealed closes allowed (step_acts taken)
    exact ⟨sealing.2, sealing.1.trans same⟩
  exact kept.2

/-- A shutdown is not taken back. -/
theorem HandlerInv.down (inv : HandlerInv s) (began : s.client.shuttingDown = true)
    (acts : InstanceActs s a s') : s'.client.shuttingDown = true := by
  cases acts with
  | protocol action client undelivered unfinished taken =>
    exact (inv.protocol.hookActs began taken).keeps.down.trans began
  | delivered id message client taken =>
    exact (inv.protocol.hookActs began taken).keeps.down.trans began
  | finished id execution client found settled taken =>
    exact (inv.protocol.hookActs began taken).keeps.down.trans began
  | hookRejected | answered | resumed => exact began

/-- Nothing connects again. -/
structure Disconnected (c : Client) : Prop where
  attempts : c.attempts = []
  timer : c.reconnectTimer = false

theorem disconnected_steps (reachable : system.Reachable permitted s)
    (began : s.client.shuttingDown = true) (steps : system.Steps permitted s s') :
    Disconnected s'.client := by
  have down : s'.client.shuttingDown = true := by
    refine reachable.stable (P := fun later => later.client.shuttingDown = true) ?_ steps began
    intro before a after reached began _ taken
    exact (handler_invariant reached).down began (step_acts taken)
  have inv := (handler_invariant (reachable.trans steps)).protocol
  exact ⟨inv.idle down, (inv.down down).disarmed⟩

/-- Once the hook has called `channel.close()` every handler has finished and none starts; from its
start on nothing connects again; and it does not reject. -/
structure Graceful (s : ConsumerInstance) : Prop where
  finished : s.client.closing = true → ∀ execution ∈ s.executions, execution.promise ≠ .pending
  sealed : s.client.closing = true → ∀ s', system.Steps permitted s s' →
    s'.executions = s.executions
  disconnected : s.client.shuttingDown = true → ∀ s', system.Steps permitted s s' →
    Disconnected s'.client
  resolves : s.hookRejected = false

theorem graceful (reachable : system.Reachable permitted s) : Graceful s := by
  have inv := handler_invariant reachable
  refine ⟨fun closes execution member => ?_, fun closes s' => sealed_steps reachable closes,
    fun began s' => disconnected_steps reachable began, inv.resolves⟩
  obtain ⟨id, found⟩ := List.getElem?_of_mem member
  exact inv.ended closes found

/-- Every handler has acked, nacked or republished by then. -/
def AllIssued (s : ConsumerInstance) : Prop :=
  s.client.closing = true → ∀ execution ∈ s.executions, execution.issued = true

/-- The delivered body has a usable `orderId`, and a handler that has issued nothing yet reads a
counter only where it converts. -/
def usable (s : ConsumerInstance) : InstanceAction → Prop
  | .deliver _ message => Keyed message.content
  | .resumes id _ => ∀ execution, s.executions[id]? = some execution → execution.issued = false →
      ∀ key, counterRead execution.pc = some key →
        ∃ n, execution.message.headers.count key = .ok n
  | _ => True

/-- No handler was ended by an exception before it issued anything. -/
def Accounted (s : ConsumerInstance) : Prop :=
  ∀ (id : Nat) (execution : Execution), s.executions[id]? = some execution →
    execution.pc = .rejected → execution.issued = true

theorem Accounted.step (accounted : Accounted s) (condition : usable s a)
    (acts : InstanceActs s a s') : Accounted s' := by
  cases acts with
  | protocol | hookRejected | finished => exact accounted
  | delivered id message =>
    intro other execution placed rejected
    rcases Registry.of_added placed with old | ⟨_, rfl⟩
    · exact accounted other execution old rejected
    · rw [Execution.start, firstAwait_keyed condition] at rejected
      cases rejected
  | answered id outcomes before pc found awaited =>
    intro other execution placed rejected
    rcases Registry.of_set placed with ⟨_, rfl⟩ | ⟨_, old⟩
    · exact absurd rejected (Execution.settle_running awaited).2
    · exact accounted other execution old rejected
  | resumed id ops before segment found taken =>
    intro other execution placed rejected
    rcases Registry.of_set placed with ⟨_, rfl⟩ | ⟨_, old⟩
    · rcases Execution.segment_ends taken (Or.inr rejected) with
        calls | ⟨_, key, text, read, throws⟩
      · simp [calls]
      · -- a counter that throws is read before the first call, unless a call threw earlier
        cases earlier : before.issued with
        | true => simp
        | false =>
          obtain ⟨n, converts⟩ := condition before found earlier key read
          cases throws.symm.trans converts
    · exact accounted other execution old rejected

theorem accounted_invariant
    (reachable : system.Reachable (fun s a => permitted s a ∧ usable s a) s) : Accounted s := by
  refine reachable.invariant ?_ fun s a s' _ accounted condition taken =>
    accounted.step condition.2 (step_acts taken)
  rintro s rfl id execution found
  cases found

theorem allIssued (reachable : system.Reachable (fun s a => permitted s a ∧ usable s a) s) :
    AllIssued s := by
  have inv := handler_invariant (reachable.mono fun _ _ both => both.1)
  have accounted := accounted_invariant reachable
  intro closes execution member
  obtain ⟨id, found⟩ := List.getElem?_of_mem member
  have settled := inv.ended closes found
  unfold Execution.promise at settled
  split at settled
  -- it returned, or an exception ended it
  next returned => exact inv.issued id execution found returned
  next rejected => exact accounted id execution found rejected
  · exact absurd rfl settled

/-- **The shutdown drains before it closes.** Whatever handlers and connections do meanwhile, every
handler has finished when the hook calls `channel.close()`, those that returned have acked, nacked
or republished, none starts afterwards, nothing connects again, and the hook does not reject. No
handler is left with nothing issued in a run whose bodies have a usable `orderId` and whose counters
convert where they are read. -/
theorem shutdown_drains (reachable : system.Reachable permitted s) :
    Graceful s ∧ (s.client.closing = true →
      ∀ execution ∈ s.executions, execution.pc = .returned → execution.issued = true) ∧
    (system.Reachable (fun s a => permitted s a ∧ usable s a) s → AllIssued s) := by
  refine ⟨graceful reachable, ?_, allIssued⟩
  intro _ execution member returned
  obtain ⟨id, found⟩ := List.getElem?_of_mem member
  exact (handler_invariant reachable).issued id execution found returned

/-- A decided condition that implies `permitted`. -/
def permits (s : ConsumerInstance) : InstanceAction → Bool
  | .protocol .shutdown => decide (s.client.attempts = [])
  | .deliver id _ => !cancelSettled s.client id
  | _ => true

theorem permits_sound (s : ConsumerInstance) (a : InstanceAction) (passed : permits s a = true) :
    permitted s a := by
  cases a with
  | protocol action =>
    rintro rfl
    simpa [permits] using passed
  | deliver id message => simpa [permits, permitted] using passed
  | answered | resumes | finishes => trivial

/-- A decided condition that implies `usable`. -/
def uses (s : ConsumerInstance) : InstanceAction → Bool
  | .deliver _ message => (OrderNotificationConsumer.start message.content).isOk
  | .resumes id _ =>
    match s.executions[id]? with
    | some execution => (counterRead execution.pc).all fun key =>
        (execution.message.headers.count key).isOk
    | none => true
  | _ => true

theorem isOk_eq {ε α : Type} {result : Except ε α} (passed : result.isOk = true) :
    ∃ value, result = .ok value := by
  cases result with
  | ok value => exact ⟨value, rfl⟩
  | error e => cases passed

theorem uses_sound (s : ConsumerInstance) (a : InstanceAction) (passed : uses s a = true) :
    usable s a := by
  cases a with
  | deliver id message => exact OrderNotificationConsumer.start_ok_iff.mp (isOk_eq passed)
  | resumes id ops =>
    intro execution found _ key read
    simp only [uses, found, read, Option.all_some] at passed
    exact isOk_eq passed
  | protocol | answered | finishes => trivial

/-- The consumer connects, a message is delivered, and the hook starts. -/
def untilShutdown (message : Message) : List InstanceAction :=
  (Client.setupSucceeds .orderNotificationConsumer).map .protocol ++
    [.deliver 0 message, .protocol .shutdown, .protocol (.shutdownSettles true)]

/-- An execution goes through so many awaits, and every call succeeds. -/
def awaits (n : Nat) : List InstanceAction :=
  (List.replicate n [.answered 0 (.calm (.resolved none)),
    .resumes 0 ⟨false, false, false⟩]).flatten

/-- The hook comes to `channel.close()`. -/
def drainedShutdown (message : Message) (n : Nat) : ConsumerInstance :=
  system.play (fun s a => permits s a && uses s a)
    ⟨Client.empty.connect Service.orderNotificationConsumer.setup, [], false⟩
    (untilShutdown message ++ awaits n ++ [.finishes 0, .protocol (.shutdownSettles true)])

theorem order_drained :
    (drainedShutdown (RabbitMqService.message 7 "a") 5).client.closing = true ∧
    (drainedShutdown (RabbitMqService.message 7 "a") 5).executions.length = 1 ∧
    Graceful (drainedShutdown (RabbitMqService.message 7 "a") 5) ∧
    AllIssued (drainedShutdown (RabbitMqService.message 7 "a") 5) := by
  have sound (s : ConsumerInstance) (a : InstanceAction)
      (passed : (permits s a && uses s a) = true) : permitted s a ∧ usable s a := by
    rw [Bool.and_eq_true] at passed
    exact ⟨permits_sound s a passed.1, uses_sound s a passed.2⟩
  have reachable := Transition.System.play_reachable _ sound (M := system) (.init rfl)
    (untilShutdown (RabbitMqService.message 7 "a") ++ awaits 5 ++
      [.finishes 0, .protocol (.shutdownSettles true)])
  have drains := shutdown_drains (reachable.mono fun _ _ both => both.1)
  exact ⟨by decide +kernel, by decide +kernel, drains.1, drains.2.2 reachable⟩

/-- The body is no JSON, and `handleMessage` ends with an exception. -/
def unparsedShutdown : ConsumerInstance :=
  system.play permits ⟨Client.empty.connect Service.orderNotificationConsumer.setup, [], false⟩
    (untilShutdown ⟨.bytes [0x7b] none, .empty⟩ ++
      [.finishes 0, .protocol (.shutdownSettles true)])

/-- The hook goes on to close the channel, with nothing issued for the delivery. -/
theorem unparsed_at_close : ¬∀ s, system.Reachable permitted s → Graceful s ∧ AllIssued s := by
  intro claim
  have reachable : system.Reachable permitted unparsedShutdown :=
    Transition.System.play_reachable _ permits_sound (.init rfl) _
  have unissued : unparsedShutdown.executions.map (·.issued) = [false] := by decide +kernel
  have issued := (claim _ reachable).2 (by decide +kernel)
  have here : false ∈ unparsedShutdown.executions.map (·.issued) := by simp [unissued]
  obtain ⟨execution, member, none⟩ := List.mem_map.mp here
  cases none.symm.trans (issued execution member)

end ConsumerInstance

end FlashSaleLab
