import FlashSaleLab.Connection.Shutdown

/-!
# What the consumer's hook waits for

Only the current channel has a consumer, and from the start of the hook only the channel that it
took. Once that consumer is cancelled, the hook waits for every handler that is still running, and
when it goes on there is none.
-/
namespace FlashSaleLab

namespace Connection

variable {held : Connection}

theorem dropChannel_consuming (consuming : held.dropChannel.consuming = true) :
    held.consuming = true := by
  unfold dropChannel at consuming
  split at consuming
  · cases consuming
  · exact consuming

theorem terminate_consuming (consuming : held.terminate.consuming = true) :
    held.consuming = true :=
  dropChannel_consuming consuming

end Connection

namespace Client

variable {service : Service} {c c' : Client} {a : ClientAction}

/-- The channel whose consumer the hook answers for; before it starts, the current channel. -/
def hookChannel (c : Client) : Option Nat :=
  match c.shutdown with
  | .idle => c.channel
  | .cancelling channel _ => some channel
  | .draining _ channel _ => channel
  | .closingChannel channel _ => some channel
  | .closingConnection _ _ | .resolved => none

/-- No other channel has a consumer. -/
def Attended (c : Client) : Prop :=
  ∀ (id : Nat) (held : Connection), c.connections[id]? = some held → held.consuming = true →
    c.hookChannel = some id

/-- The handlers the hook waits for, once it is past its `cancel`. -/
def awaitedTasks : ShutdownPc → Option (List Nat)
  | .idle | .cancelling _ _ => none
  | .draining tasks _ _ => some tasks
  | .closingChannel _ _ | .closingConnection _ _ | .resolved => some []

/-- It waits for every handler that is still running. -/
def Covered (c : Client) : Prop :=
  ∀ tasks, awaitedTasks c.shutdown = some tasks → ∀ (id : Nat) (task : DeliveryTask),
    c.tasks[id]? = some task → task.finished = false → id ∈ tasks

/-- No consumer was added. -/
def Fewer (c c' : Client) : Prop :=
  ∀ (id : Nat) (held' : Connection), c'.connections[id]? = some held' → held'.consuming = true →
    ∃ held, c.connections[id]? = some held ∧ held.consuming = true

theorem Fewer.same (same : c'.connections = c.connections) : Fewer c c' :=
  fun _ held found consuming => ⟨held, same ▸ found, consuming⟩

theorem Fewer.modify {id : Nat} {f : Connection → Connection}
    (drops : ∀ held, (f held).consuming = true → held.consuming = true)
    (same : c'.connections = (c.modify id f).connections) : Fewer c c' := by
  intro other held' found consuming
  rw [same] at found
  rcases of_get_modify found with ⟨_, there⟩ | ⟨rfl, before, there, rfl⟩
  · exact ⟨held', there, consuming⟩
  · exact ⟨before, there, drops before consuming⟩

theorem Attended.of_fewer (attended : Attended c) (fewer : Fewer c c')
    (same : c'.hookChannel = c.hookChannel) : Attended c' := by
  intro id held' found consuming
  obtain ⟨held, before, consumed⟩ := fewer id held' found consuming
  exact same.trans (attended id held before consumed)

section Hook

theorem afterChannel_hookChannel (connection : Option Nat) :
    (c.afterChannel connection).hookChannel = none := by
  cases connection <;> rfl

theorem closeChannel_hookChannel (channel connection : Option Nat) :
    (c.closeChannel channel connection).hookChannel = channel := by
  cases channel with
  | none => exact afterChannel_hookChannel connection
  | some id => rfl

theorem afterCancel_hookChannel (channel connection : Option Nat) :
    (OrderNotificationConsumer.afterCancel c channel connection).hookChannel = channel := by
  unfold OrderNotificationConsumer.afterCancel
  split
  · rfl
  · exact closeChannel_hookChannel channel connection

theorem afterChannel_fewer (connection : Option Nat) : Fewer c (c.afterChannel connection) := by
  cases connection with
  | none => exact .same rfl
  | some id => exact .modify (f := Connection.close) (fun _ consuming => consuming) rfl

theorem closeChannel_fewer (channel connection : Option Nat) :
    Fewer c (c.closeChannel channel connection) := by
  cases channel with
  | none =>
    exact afterChannel_fewer (c := { c with channel := none, connection := none }) connection
  | some id => exact .same rfl

theorem afterCancel_fewer (channel connection : Option Nat) :
    Fewer c (OrderNotificationConsumer.afterCancel c channel connection) := by
  unfold OrderNotificationConsumer.afterCancel
  split
  · exact .same rfl
  · exact closeChannel_fewer (c := { c with consumerTag := none }) channel connection

theorem mem_inFlightHandlers {id : Nat} {task : DeliveryTask} (found : c.tasks[id]? = some task)
    (running : task.finished = false) : id ∈ c.inFlightHandlers := by
  rw [inFlightHandlers, List.mem_filter, List.mem_range]
  exact ⟨Registry.lt_of_found found, by rw [found]; simp [running]⟩

/-- Nothing is left to wait for. -/
def AllFinished (c : Client) : Prop :=
  ∀ (id : Nat) (task : DeliveryTask), c.tasks[id]? = some task → task.finished = true

theorem AllFinished.covered (ended : AllFinished c) : Covered c := by
  intro tasks _ id task found running
  cases (ended id task found).symm.trans running

theorem afterChannel_tasks (connection : Option Nat) :
    (c.afterChannel connection).tasks = c.tasks := by
  cases connection <;> rfl

theorem closeChannel_tasks (channel connection : Option Nat) :
    (c.closeChannel channel connection).tasks = c.tasks := by
  cases channel with
  | none => exact afterChannel_tasks connection
  | some id => rfl

theorem afterCancel_tasks (channel connection : Option Nat) :
    (OrderNotificationConsumer.afterCancel c channel connection).tasks = c.tasks := by
  unfold OrderNotificationConsumer.afterCancel
  split
  · rfl
  · exact closeChannel_tasks channel connection

/-- The hook takes all handlers in flight, or there are none. -/
theorem afterCancel_covered (channel connection : Option Nat) :
    Covered (OrderNotificationConsumer.afterCancel c channel connection) := by
  unfold OrderNotificationConsumer.afterCancel
  split
  -- the snapshot that `Promise.all` gets
  · intro tasks awaited id task found running
    cases awaited
    exact mem_inFlightHandlers found running
  next none =>
    have ended : AllFinished c := by
      intro id task found
      by_contra running
      have member := mem_inFlightHandlers found (by simpa using running)
      rw [not_not.mp none] at member
      cases member
    apply AllFinished.covered
    intro id task found
    refine ended id task ?_
    rwa [OrderNotificationConsumer.afterDrain, closeChannel_tasks] at found

end Hook

/-- What a step does once the hook has started and no `connect()` is in progress. -/
inductive HookActs (c : Client) : ClientAction → Client → Prop
  /-- An event of a connection, and its listeners. -/
  | heard (a : ClientAction) (c' : Client) (id : Nat) (f : Connection → Connection)
      (drops : ∀ held, (f held).consuming = true → held.consuming = true)
      (connections : c'.connections = (c.modify id f).connections)
      (shutdown : c'.shutdown = c.shutdown) (tasks : c'.tasks = c.tasks) (keeps : KeepsSetup c c') :
      HookActs c a c'
  | delivered (id : Nat) (held : Connection) (found : c.connections[id]? = some held)
      (consuming : held.consuming = true) :
      HookActs c (.deliver id) { c with tasks := c.tasks ++ [⟨id, false⟩] }
  | finished (task : Nat) (running : DeliveryTask) (found : c.tasks[task]? = some running) :
      HookActs c (.handlerFinishes task)
        { c with tasks := c.tasks.set task { running with finished := true } }
  | cancelled (ok : Bool) (channel : Nat) (connection : Option Nat)
      (suspended : c.shutdown = .cancelling channel connection) :
      HookActs c (.shutdownSettles ok)
        (OrderNotificationConsumer.afterCancel
          (if ok then c.modify channel fun held => { held with consuming := false } else c)
          (some channel) connection)
  | drained (ok : Bool) (tasks : List Nat) (channel connection : Option Nat)
      (suspended : c.shutdown = .draining tasks channel connection)
      (ends : ∀ task ∈ tasks, (c.tasks[task]?).map (·.finished) = some true) :
      HookActs c (.shutdownSettles ok) (OrderNotificationConsumer.afterDrain c channel connection)
  | channelEnded (ok : Bool) (channel : Nat) (connection : Option Nat)
      (suspended : c.shutdown = .closingChannel channel connection) :
      HookActs c (.shutdownSettles ok)
        ((c.modify channel Connection.dropChannel).afterChannel connection)
  | connectionEnded (ok : Bool) (connection : Nat) (refused : Bool)
      (suspended : c.shutdown = .closingConnection connection refused) :
      HookActs c (.shutdownSettles ok) { c with shutdown := .resolved }

theorem ShutdownInv.acts (inv : ShutdownInv service c) (idle : c.attempts = [])
    (acts : ClientActs service c a c') : HookActs c a c' := by
  have unawaited {i : Nat} {attempt : Attempt} (awaited : c.attempts[i]? = some attempt) :
      False := by
    rw [idle] at awaited
    cases awaited
  cases acts with
  | connected attempt rest awaited => exact (unawaited awaited).elim
  | performed attempt call rest id held awaited => exact (unawaited awaited).elim
  | established attempt call id held awaited => exact (unawaited awaited).elim
  | failed attempt suspended awaited => exact (unawaited awaited).elim
  -- the hook cleared the timer, and nothing sets it again
  | fired armed => cases inv.disarmed.symm.trans armed
  | lost id held found opened =>
    exact .heard _ _ id (fun connection => { connection with status := .lost })
      (fun _ consuming => consuming) rfl rfl rfl ⟨rfl, rfl, rfl⟩
  | channelUnheard id held found =>
    exact .heard _ _ id _ (fun _ => Connection.dropChannel_consuming) rfl rfl rfl ⟨rfl, rfl, rfl⟩
  | channelClosed id held found =>
    obtain ⟨channel, tag, same⟩ := onChannelClose_down service id
      (c := c.modify id Connection.dropChannel) inv.down
    rw [same]
    exact .heard _ _ id _ (fun _ => Connection.dropChannel_consuming) rfl rfl rfl ⟨rfl, rfl, rfl⟩
  | connectionUnheard id held found =>
    exact .heard _ _ id _ (fun _ => Connection.terminate_consuming) rfl rfl rfl ⟨rfl, rfl, rfl⟩
  | connectionClosed id held found =>
    have terminated : (c.modify id Connection.terminate).shuttingDown = true := inv.down
    split
    · obtain ⟨channel, tag, same⟩ := onChannelClose_down service id terminated
      rw [same]
      obtain ⟨connection, channel', tag', same', _⟩ := onConnectionClose_down service id
        (c := { c.modify id Connection.terminate with channel := channel, consumerTag := tag })
        terminated
      rw [same']
      exact .heard _ _ id _ (fun _ => Connection.terminate_consuming) rfl rfl rfl ⟨rfl, rfl, rfl⟩
    · obtain ⟨connection, channel, tag, same, _⟩ := onConnectionClose_down service id terminated
      rw [same]
      exact .heard _ _ id _ (fun _ => Connection.terminate_consuming) rfl rfl rfl ⟨rfl, rfl, rfl⟩
  | delivered id held found opened consuming => exact .delivered id held found consuming
  | finished task running found => exact .finished task running found
  | shutdownBegan notYet => exact absurd notYet inv.hook.not_idle
  | cancelled ok channel connection suspended => exact .cancelled ok channel connection suspended
  | drained ok tasks channel connection suspended ends =>
    exact .drained ok tasks channel connection suspended ends
  | channelEnded ok channel connection held suspended =>
    exact .channelEnded ok channel connection suspended
  | connectionEnded ok connection refused suspended =>
    exact .connectionEnded ok connection refused suspended

/-- No `connect()` is started, and the timer stays clear. -/
theorem HookActs.keeps (acts : HookActs c a c') : KeepsSetup c c' := by
  cases acts with
  | heard _ _ id f drops connections shutdown tasks keeps => exact keeps
  | delivered | finished | connectionEnded => exact ⟨rfl, rfl, rfl⟩
  | cancelled ok channel connection =>
    cases ok with
    | false => exact afterCancel_keeps (some channel) connection
    | true =>
      have keeps := afterCancel_keeps
        (c := c.modify channel fun held => { held with consuming := false }) (some channel)
        connection
      exact ⟨keeps.attempts, keeps.down, keeps.timer⟩
  | drained ok tasks channel connection =>
    have keeps := closeChannel_keeps (c := { c with consumerTag := none }) channel connection
    exact ⟨keeps.attempts, keeps.down, keeps.timer⟩
  | channelEnded ok channel connection =>
    have keeps := afterChannel_keeps (c := c.modify channel Connection.dropChannel) connection
    exact ⟨keeps.attempts, keeps.down, keeps.timer⟩

/-- The hook's channel is the only one that may have a consumer. -/
theorem Attended.step (attended : Attended c) (orderly : Orderly c) (busy : c.shutdown ≠ .idle)
    (acts : HookActs c a c') : Attended c' := by
  cases acts with
  | heard _ _ id f drops connections shutdown =>
    refine attended.of_fewer (.modify drops connections) ?_
    unfold hookChannel
    rw [shutdown]
    split
    next idle => exact absurd idle busy
    all_goals rfl
  | delivered | finished => exact attended.of_fewer (.same rfl) rfl
  | cancelled ok channel connection suspended =>
    have here : c.hookChannel = some channel := by rw [hookChannel, suspended]
    refine attended.of_fewer ?_ ((afterCancel_hookChannel _ _).trans here.symm)
    cases ok with
    | false => exact afterCancel_fewer _ _
    | true =>
      intro id held found consuming
      obtain ⟨before, there, consumed⟩ := afterCancel_fewer _ _ id held found consuming
      refine Fewer.modify (f := fun held => { held with consuming := false }) ?_ rfl id before there
        consumed
      intro held impossible
      cases impossible
  | drained ok tasks channel connection suspended =>
    have here : c.hookChannel = channel := by rw [hookChannel, suspended]
    refine attended.of_fewer ?_ ((closeChannel_hookChannel _ _).trans here.symm)
    exact closeChannel_fewer (c := { c with consumerTag := none }) channel connection
  | channelEnded ok channel connection suspended =>
    -- with its channel the consumer is gone
    have here : c.hookChannel = some channel := by rw [hookChannel, suspended]
    intro id held found consuming
    obtain ⟨before, there, consumed⟩ := afterChannel_fewer connection id held found consuming
    rcases of_get_modify there with ⟨other, same⟩ | ⟨rfl, old, present, rfl⟩
    · cases here.symm.trans (attended id before same consumed)
      exact absurd rfl other
    · have opened := ((orderly id old present).dropChannel.consumer consumed).1
      exact absurd opened Connection.dropChannel_closed
  | connectionEnded ok connection refused suspended =>
    have here : c.hookChannel = none := by rw [hookChannel, suspended]
    exact attended.of_fewer (.same rfl) here.symm

/-- The hook does not go on before the handlers have finished, if none is delivered to it. -/
theorem Covered.step (covered : Covered c)
    (undelivered : ∀ id, a = .deliver id → awaitedTasks c.shutdown = none)
    (acts : HookActs c a c') : Covered c' := by
  cases acts with
  | heard _ _ id f drops connections shutdown same =>
    intro tasks awaited id task found running
    rw [shutdown] at awaited
    rw [same] at found
    exact covered tasks awaited id task found running
  | delivered id =>
    intro tasks awaited
    cases (undelivered id rfl).symm.trans awaited
  | finished mover before present =>
    intro tasks awaited id task found running
    rcases Registry.of_set found with ⟨_, rfl⟩ | ⟨_, old⟩
    · cases running
    · exact covered tasks awaited id task old running
  | cancelled => exact afterCancel_covered _ _
  | drained ok tasks channel connection suspended ends =>
    apply AllFinished.covered
    intro id task found
    rw [OrderNotificationConsumer.afterDrain, closeChannel_tasks] at found
    by_contra running
    -- `Promise.all` has resolved, so every handler that was waited for has finished
    have awaited := covered tasks (by rw [suspended]; rfl) id task found (by simpa using running)
    have ended := ends id awaited
    rw [show c.tasks[id]? = some task from found] at ended
    exact running (Option.some.inj ended)
  | channelEnded ok channel connection suspended =>
    have nothing := covered [] (by rw [suspended]; rfl)
    intro tasks _ id task found running
    rw [afterChannel_tasks] at found
    cases nothing id task found running
  | connectionEnded ok connection refused suspended =>
    have nothing := covered [] (by rw [suspended]; rfl)
    intro tasks _ id task found running
    cases nothing id task found running

/-- A consumer is registered on the current channel only. -/
theorem ReconnectInv.attended (inv : ReconnectInv service c) (orderly : Orderly c) :
    Attended c := by
  intro id held found consuming
  have sane := orderly id held found
  obtain ⟨opened, heard⟩ := sane.consumer consuming
  have alive : ¬held.Over := fun ends => sane.ends ends opened
  -- its listeners are on and it is not over, so it is the latest
  have set : c.connection = some id :=
    (inv.older id held found heard).resolve_right fun closed => alive (Or.inr closed)
  rw [hookChannel, inv.calm.2]
  cases inv.phase with
  | connecting attempt running disarmed unset | waiting idle armed unset =>
    cases unset.symm.trans set
  | established other before idle disarmed here current =>
    cases here.symm.trans set
    exact current
  | closing other before consumer idle disarmed here unheld there heard requested pending =>
    cases here.symm.trans set
    cases found.symm.trans there
    exact absurd (Or.inl pending) alive

section Start

theorem beforeApplicationShutdown_attempts :
    (OrderNotificationConsumer.beforeApplicationShutdown c).attempts = c.attempts := by
  simp only [OrderNotificationConsumer.beforeApplicationShutdown]
  split
  · rfl
  · exact (afterCancel_keeps _ _).attempts

theorem beforeApplicationShutdown_tasks :
    (OrderNotificationConsumer.beforeApplicationShutdown c).tasks = c.tasks := by
  simp only [OrderNotificationConsumer.beforeApplicationShutdown]
  split
  · rfl
  · exact afterCancel_tasks _ _

theorem beforeApplicationShutdown_attended (attended : Attended c) (idle : c.shutdown = .idle) :
    Attended (OrderNotificationConsumer.beforeApplicationShutdown c) := by
  have here : c.hookChannel = c.channel := by rw [hookChannel, idle]
  simp only [OrderNotificationConsumer.beforeApplicationShutdown]
  split
  next channel tag held consuming =>
    exact attended.of_fewer (.same rfl) (held.symm.trans here.symm)
  · refine attended.of_fewer ?_ ((afterCancel_hookChannel _ _).trans here.symm)
    exact afterCancel_fewer (c := { c with shuttingDown := true, reconnectTimer := false }) _ _

theorem beforeApplicationShutdown_covered :
    Covered (OrderNotificationConsumer.beforeApplicationShutdown c) := by
  simp only [OrderNotificationConsumer.beforeApplicationShutdown]
  split
  · intro tasks awaited
    cases awaited
  · exact afterCancel_covered _ _

end Start

/-- Once `cancel` has settled, the channel gets no further delivery. -/
def cancelSettled (c : Client) (id : Nat) : Bool :=
  match c.shutdown with
  | .draining _ channel _ => channel = some id
  | .closingChannel channel _ => channel = id
  | _ => false

/-- A hook that is past its `cancel` gets no delivery at all. -/
theorem Attended.undelivered (attended : Attended c) {id : Nat}
    (open_ : cancelSettled c id = false) {held : Connection}
    (found : c.connections[id]? = some held) (consuming : held.consuming = true) :
    awaitedTasks c.shutdown = none := by
  have here := attended id held found consuming
  unfold hookChannel at here
  unfold cancelSettled at open_
  split at here <;> simp_all [awaitedTasks]

/-- What holds of the protocol in a run in which no `connect()` is in progress when the hook starts,
and nothing is delivered on a channel whose `cancel` has settled. -/
structure DrainInv (c : Client) : Prop where
  reachable : (system .orderNotificationConsumer).Reachable connectsInTime c
  idle : c.shuttingDown = true → c.attempts = []
  attended : Attended c
  covered : Covered c

theorem DrainInv.step (inv : DrainInv c) (calm : a = .shutdown → c.attempts = [])
    (undelivered : ∀ id, a = .deliver id → cancelSettled c id = false)
    (taken : c.step .orderNotificationConsumer a = some c') : DrainInv c' := by
  have inTime : connectsInTime c a := by
    rintro attempt call connection rfl awaited
    by_contra down
    rw [inv.idle (by simpa using down)] at awaited
    cases awaited
  have reachable := inv.reachable.step inTime taken
  obtain ⟨phase, orderly⟩ := shutdown_invariant inv.reachable
  have acts := step_acts taken
  -- the protocol before the hook, the start of the hook, and the hook
  rcases phase with before | down
  · by_cases shutdown : a = .shutdown
    · subst shutdown
      cases acts with
      -- the hook may take a snapshot at once, if it has no consumer to cancel
      | shutdownBegan notYet =>
        refine ⟨reachable, fun _ => beforeApplicationShutdown_attempts.trans (calm rfl), ?_, ?_⟩
        · exact beforeApplicationShutdown_attended inv.attended notYet
        · exact beforeApplicationShutdown_covered
      | connectionClosed _ _ _ _ ends => cases ends
    · have after := before.step shutdown acts
      refine ⟨reachable, fun down => ?_, after.attended (shutdown_invariant reachable).2, ?_⟩
      · cases after.calm.1.symm.trans down
      · intro tasks awaited
        rw [after.calm.2] at awaited
        cases awaited
  · have hook := down.acts (inv.idle down.down) acts
    refine ⟨reachable, fun _ => hook.keeps.attempts.trans (inv.idle down.down),
      inv.attended.step orderly down.hook.not_idle hook, inv.covered.step ?_ hook⟩
    rintro id rfl
    cases acts with
    | delivered _ held found opened consuming =>
      exact inv.attended.undelivered (undelivered id rfl) found consuming
    | connectionClosed _ _ _ _ ends => cases ends

/-- The hook has called `channel.close()`, if it holds a channel. -/
def closing (c : Client) : Bool :=
  match c.shutdown with
  | .closingChannel _ _ | .closingConnection _ _ | .resolved => true
  | _ => false

theorem awaited_of_closing (closes : c.closing = true) : awaitedTasks c.shutdown = some [] := by
  unfold closing at closes
  split at closes
  next suspended => rw [suspended]; rfl
  next suspended => rw [suspended]; rfl
  next suspended => rw [suspended]; rfl
  · cases closes

theorem afterChannel_closing (connection : Option Nat) :
    (c.afterChannel connection).closing = true := by
  cases connection <;> rfl

theorem HookActs.closing (acts : HookActs c a c') (closes : c.closing = true) :
    c'.closing = true := by
  have past := awaited_of_closing closes
  cases acts with
  | heard _ _ id f drops connections shutdown =>
    rw [Client.closing, shutdown]
    exact closes
  | delivered | finished => exact closes
  | cancelled ok channel connection suspended =>
    rw [suspended] at past
    cases past
  | drained ok tasks channel connection suspended =>
    rw [Client.closing, suspended] at closes
    cases closes
  | channelEnded ok channel connection => exact afterChannel_closing connection
  | connectionEnded => rfl

theorem DrainInv.down (inv : DrainInv c) (began : c.shuttingDown = true) :
    ShutdownInv .orderNotificationConsumer c :=
  (shutdown_invariant inv.reachable).1.resolve_left fun calm => by
    cases began.symm.trans calm.calm.1

theorem DrainInv.began (inv : DrainInv c) (closes : c.closing = true) : c.shuttingDown = true := by
  refine (shutdown_started (shutdown_invariant inv.reachable).1 fun idle => ?_).down
  rw [Client.closing, idle] at closes
  cases closes

/-- A step after the start of the hook. -/
theorem DrainInv.hookActs (inv : DrainInv c) (began : c.shuttingDown = true)
    (taken : c.step .orderNotificationConsumer a = some c') : HookActs c a c' :=
  (inv.down began).acts (inv.idle began) (step_acts taken)

section Tasks

theorem onChannelClose_tasks (service : Service) (c : Client) (id : Nat) :
    (service.onChannelClose id c).tasks = c.tasks := by
  cases service with
  | rabbitMqService => rfl
  | orderNotificationConsumer =>
    simp only [Service.onChannelClose, OrderNotificationConsumer.onChannelClose]
    split <;> split <;> rfl

theorem onConnectionClose_tasks (service : Service) (c : Client) (id : Nat) :
    (service.onConnectionClose id c).tasks = c.tasks := by
  cases service with
  | rabbitMqService =>
    simp only [Service.onConnectionClose, RabbitMqService.onConnectionClose, scheduleReconnect_eq]
    split <;> rfl
  | orderNotificationConsumer =>
    simp only [Service.onConnectionClose, OrderNotificationConsumer.onConnectionClose,
      scheduleReconnect_eq]
    split
    · split <;> rfl
    · rfl

/-- Only deliveries and finished handlers change the tasks. -/
theorem acts_tasks (undelivered : ∀ id, a ≠ .deliver id)
    (unfinished : ∀ id, a ≠ .handlerFinishes id)
    (acts : ClientActs .orderNotificationConsumer c a c') : c'.tasks = c.tasks := by
  cases acts with
  | connected | performed | established | lost | channelUnheard | connectionUnheard
  | connectionEnded => rfl
  | failed => rw [scheduleReconnect_eq]
  | fired =>
    unfold connect
    split <;> rfl
  | channelClosed id => exact onChannelClose_tasks _ _ id
  | connectionClosed id =>
    refine (onConnectionClose_tasks _ _ id).trans ?_
    split
    · exact onChannelClose_tasks _ _ id
    · rfl
  | delivered id => exact absurd rfl (undelivered id)
  | finished task => exact absurd rfl (unfinished task)
  | shutdownBegan => exact beforeApplicationShutdown_tasks
  | cancelled ok channel connection =>
    refine (afterCancel_tasks _ _).trans ?_
    cases ok <;> rfl
  | drained ok tasks channel connection => exact closeChannel_tasks _ _
  | channelEnded ok channel connection => exact afterChannel_tasks _

end Tasks

end Client

end FlashSaleLab
