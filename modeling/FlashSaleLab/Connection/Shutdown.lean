import FlashSaleLab.Connection.Hook

/-!
# What becomes of the connections

Every connection that was set up stays current until it closes or the hook closes it. Two kinds of
connection are never closed, and nothing is said of them: one on which a setup call rejects while it
is open, and one whose `connect()` succeeds after the hook has started.
-/
namespace FlashSaleLab

namespace Client

open Connection (Over Ages Sane)

variable {service : Service} {c c' : Client} {a : ClientAction}

/-- The last of several setup calls is the one that registers the consumer. -/
theorem consume_last {done rest : List SetupCall} {call : SetupCall}
    (suffix : service.setup = done ++ call :: rest) (more : rest ≠ []) : call ≠ .consume := by
  rintro rfl
  have early : SetupCall.consume ∈ service.setup.dropLast := by
    rw [suffix, List.dropLast_append_of_ne_nil (by simp), List.dropLast_cons_of_ne_nil more]
    simp
  cases service with
  | orderNotificationConsumer => exact absurd early (by decide)
  | rabbitMqService => exact absurd early (by decide)

/-- The channel's listener calls `connection.close()`, or touches no connection. -/
theorem onChannelClose_table (service : Service) (c : Client) (id : Nat) :
    (service.onChannelClose id c).connections = c.connections ∨
      (service.onChannelClose id c).connections = (c.modify id Connection.close).connections := by
  cases service with
  | rabbitMqService => exact Or.inl rfl
  | orderNotificationConsumer =>
    simp only [Service.onChannelClose, OrderNotificationConsumer.onChannelClose]
    split
    · split
      · exact Or.inr rfl
      · exact Or.inl rfl
    · split
      · exact Or.inr rfl
      · exact Or.inl rfl

theorem Orderly.onChannelClose (orderly : Orderly c) {id : Nat}
    (ended : ∀ held, c.connections[id]? = some held → held.channel ≠ .opened) :
    Orderly (service.onChannelClose id c) := by
  have closed : Orderly (c.modify id Connection.close) :=
    orderly.modify fun held found => (orderly id held found).close (ended held found)
  intro other held found
  rcases onChannelClose_table service c id with same | same
  · rw [same] at found
    exact orderly other held found
  · rw [same] at found
    exact closed other held found

theorem Orderly.onConnectionClose (orderly : Orderly c) {id : Nat} :
    Orderly (service.onConnectionClose id c) := by
  cases service with
  | rabbitMqService =>
    simp only [Service.onConnectionClose, RabbitMqService.onConnectionClose, scheduleReconnect_eq]
    split <;> exact orderly
  | orderNotificationConsumer =>
    simp only [Service.onConnectionClose, OrderNotificationConsumer.onConnectionClose,
      scheduleReconnect_eq]
    split
    · split <;> exact orderly
    · exact orderly

/-- The step that registers the consumer also registers the listeners. -/
theorem Orderly.established (orderly : Orderly c) (inv : ReconnectInv service c) {attempt : Nat}
    {call : SetupCall} {id : Nat} {held : Connection}
    (awaited : c.attempts[attempt]? = some ⟨[call], some id⟩)
    (found : c.connections[id]? = some held) (usable : held.usable call = true) :
    Orderly (service.established (c.modify id (Connection.perform call)) attempt id) := by
  obtain ⟨opened, channel⟩ := inv.setup_done awaited usable
  intro other before there
  by_cases same : other = id
  · subst same
    cases (get_established found).symm.trans there
    refine ⟨fun _ => ⟨channel, rfl⟩, fun ends => ?_, fun closing => ?_⟩
    · simp [Over, opened] at ends
    · cases opened.symm.trans closing
  · refine orderly other before ?_
    rw [← get_modify_other (f := Connection.perform call) same]
    exact (get_modify_other same).symm.trans there

theorem Orderly.shutdown (orderly : Orderly c) (inv : ReconnectInv service c) :
    Orderly (service.onShutdown c) := by
  cases service with
  | rabbitMqService =>
    exact Orderly.closeChannel (c := { c with shuttingDown := true, reconnectTimer := false })
      orderly inv.captured
  | orderNotificationConsumer =>
    simp only [Service.onShutdown, OrderNotificationConsumer.beforeApplicationShutdown]
    split
    · exact orderly
    · exact Orderly.afterCancel (c := { c with shuttingDown := true, reconnectTimer := false })
        orderly inv.captured

/-- The consumer is cancelled, or `cancel` rejected. -/
theorem Orderly.cancelled (orderly : Orderly c) (down : ShutdownInv service c) (ok : Bool)
    {channel : Nat} {connection : Option Nat}
    (suspended : c.shutdown = .cancelling channel connection) :
    Orderly (OrderNotificationConsumer.afterCancel
      (if ok then c.modify channel fun held => { held with consuming := false } else c)
      (some channel) connection) := by
  cases ok with
  | false => exact orderly.afterCancel (down.hook.of_cancelling suspended).captured
  | true =>
    have cancelled : Orderly (c.modify channel fun held => { held with consuming := false }) := by
      refine orderly.modify fun held found => ⟨fun consuming => ?_, ?_, ?_⟩
      · cases consuming
      · exact (orderly channel held found).ends
      · exact (orderly channel held found).requested
    have aged : ShutdownInv service
        (c.modify channel fun held => { held with consuming := false }) :=
      down.aged fun _ _ => ⟨rfl, id, id, id⟩
    exact cancelled.afterCancel (aged.hook.of_cancelling suspended).captured

/-- The reconnect protocol or the shutdown. -/
theorem shutdown_started (inv : ReconnectInv service c ∨ ShutdownInv service c)
    (busy : c.shutdown ≠ .idle) : ShutdownInv service c :=
  inv.resolve_left fun calm => busy calm.calm.2

theorem Orderly.step (orderly : Orderly c) (inv : ReconnectInv service c ∨ ShutdownInv service c)
    (permitted : connectsInTime c a) (acts : ClientActs service c a c') : Orderly c' := by
  have suffix {i : Nat} {attempt : Attempt} (awaited : c.attempts[i]? = some attempt) :
      ∃ done, service.setup = done ++ attempt.remaining := by
    have member := List.mem_of_getElem? awaited
    rcases inv with calm | down
    · exact (calm.attempt attempt member).suffix
    · exact down.suffix attempt member
  have dropped (id : Nat) : Orderly (c.modify id Connection.dropChannel) :=
    orderly.modify fun held found => (orderly id held found).dropChannel
  have terminated (id : Nat) : Orderly (c.modify id Connection.terminate) :=
    orderly.modify fun held found => (orderly id held found).terminate
  cases acts with
  | connected attempt rest awaited =>
    intro id held found
    rcases Registry.of_added found with old | ⟨_, rfl⟩
    · exact orderly id held old
    · exact .fresh
  | performed attempt call rest id held awaited found usable more =>
    obtain ⟨done, suffix⟩ := suffix awaited
    refine orderly.modify fun before there => ?_
    cases found.symm.trans there
    exact (orderly id held found).perform usable (consume_last suffix more)
  | established attempt call id held awaited found usable =>
    rcases inv with calm | down
    · exact orderly.established calm awaited found usable
    · cases down.down.symm.trans (permitted attempt call (some id) rfl awaited)
  | failed attempt suspended awaited =>
    rw [scheduleReconnect_eq]
    exact orderly
  | fired armed =>
    unfold connect
    split <;> exact orderly
  | lost id held found => exact orderly.modify fun held found => (orderly id held found).lose
  | channelUnheard id => exact dropped id
  | channelClosed id =>
    -- the listener's `close()` finds the channel closed
    refine (dropped id).onChannelClose fun held found => ?_
    obtain ⟨before, _, rfl⟩ := of_get_modify_self found
    exact Connection.dropChannel_closed
  | connectionUnheard id => exact terminated id
  | connectionClosed id held found =>
    refine Orderly.onConnectionClose ?_
    split
    · refine (terminated id).onChannelClose fun held found => ?_
      obtain ⟨before, _, rfl⟩ := of_get_modify_self found
      exact Connection.dropChannel_closed
    · exact terminated id
  | delivered | finished => exact orderly
  | shutdownBegan idle =>
    rcases inv with calm | down
    · exact orderly.shutdown calm
    · exact absurd idle down.hook.not_idle
  | cancelled ok channel connection suspended =>
    exact orderly.cancelled (shutdown_started inv (by simp [suspended])) ok suspended
  | drained ok tasks channel connection suspended =>
    have down := shutdown_started inv (by simp [suspended])
    exact Orderly.closeChannel (c := { c with consumerTag := none }) orderly
      (down.hook.of_draining suspended).captured
  | channelEnded ok channel connection held suspended found =>
    have down := shutdown_started inv (by simp [suspended])
    obtain ⟨rfl, _⟩ := down.hook.of_closingChannel suspended
    refine (dropped channel).afterChannel fun id before same there => ?_
    -- the hook's channel is the one of the connection it closes next
    cases same
    cases (get_modify_self found).symm.trans there
    exact Connection.dropChannel_closed
  | connectionEnded => exact orderly

/-- Before the hook starts the reconnect protocol runs, and then the hook. -/
theorem shutdown_invariant (reachable : (system service).Reachable connectsInTime c) :
    (ReconnectInv service c ∨ ShutdownInv service c) ∧ Orderly c := by
  refine reachable.invariant
    (I := fun c => (ReconnectInv service c ∨ ShutdownInv service c) ∧ Orderly c) ?_ ?_
  · rintro c rfl
    refine ⟨Or.inl (reconnect_invariant (.init rfl)), ?_⟩
    intro id held found
    cases found
  · rintro c a c' _ ⟨inv, orderly⟩ permitted taken
    have acts := step_acts taken
    refine ⟨?_, orderly.step inv permitted acts⟩
    rcases inv with calm | down
    -- the protocol goes on until the hook starts, and from then on the hook
    · by_cases shutdown : a = .shutdown
      · subst shutdown
        cases acts with
        | shutdownBegan idle => exact Or.inr calm.shutdown
        | connectionClosed _ _ _ _ ends => cases ends
      · exact Or.inl (calm.step shutdown acts)
    · exact Or.inr (down.step permitted acts)

/-- A setup call rejected on the connection before it had closed. -/
def Abandoned (c : Client) (id : Nat) (held : Connection) : Prop :=
  held.listening = false ∧ held.status ≠ .closed ∧
    ∀ attempt, attempt ∈ c.attempts → attempt.connection ≠ some id

/-- The hook waits for its channel to close and then calls `close()` on this connection. -/
def ClosesNext (c : Client) (id : Nat) : Prop :=
  ∃ channel, c.shutdown = .closingChannel channel (some id)

/-- Nothing is left to do for the connection, or it will be done. -/
def Released (c : Client) (id : Nat) (held : Connection) : Prop :=
  c.connection = some id ∨ held.status = .closed ∨ held.closeCalled = true ∨ ClosesNext c id

theorem ReconnectInv.released (inv : ReconnectInv service c) : EverySetUp c (Released c) :=
  fun id held found heard => (inv.older id held found heard).imp_right Or.inl

theorem ShutdownInv.released (inv : ShutdownInv service c) (orderly : Orderly c) :
    EverySetUp c (Released c) := by
  intro id held found heard
  have of_over (ends : held.Over) : Released c id held := by
    rcases ends with closing | closed
    · exact Or.inr (Or.inr (Or.inl ((orderly id held found).requested closing)))
    · exact Or.inr (Or.inl closed)
  cases inv.hook with
  | cancelling channel connection at_ working | draining tasks channel connection at_ working =>
    exact (working.others id held found heard).imp_right Or.inl
  | closingChannel other at_ others =>
    rcases others id held found heard with rfl | ends
    · exact Or.inr (Or.inr (Or.inr ⟨id, at_⟩))
    · exact of_over ends
  | closingConnection other refused before at_ there requested late others =>
    rcases others id held found heard with rfl | ends
    · cases found.symm.trans there
      exact Or.inr (Or.inr (Or.inl requested))
    · exact of_over ends
  | resolved at_ others => exact of_over (others id held found heard)

/-- Between two `connect()` calls a connection was set up, is closed, or was abandoned. -/
theorem EverySetUp.of_kept {P : Nat → Connection → Prop} (every : EverySetUp c P)
    (idle : c.attempts = []) {id : Nat} {held : Connection}
    (found : c.connections[id]? = some held) (kept : ¬Abandoned c id held) :
    held.status = .closed ∨ P id held := by
  cases heard : held.listening with
  | true => exact Or.inr (every id held found heard)
  | false =>
    left
    by_contra alive
    refine kept ⟨heard, alive, fun attempt member => ?_⟩
    rw [idle] at member
    cases member

/-- **No leaked connection.** Between two `connect()` calls every connection is current, closed,
asked to close, or closed next by the hook; once the hook has resolved, every connection is closed
or closing and no consumer is registered. Left out are the connections that a rejected setup call
abandoned, and the runs in which a `connect()` succeeds after the hook has started. -/
theorem connections_released (service : Service) (c : Client)
    (reachable : (system service).Reachable connectsInTime c) (idle : c.attempts = []) :
    (∀ id held, c.connections[id]? = some held → ¬Abandoned c id held → Released c id held) ∧
    (c.shutdown = .resolved → ∀ id held, c.connections[id]? = some held →
      held.consuming = false ∧
        (¬Abandoned c id held → held.status = .closing ∨ held.status = .closed)) := by
  obtain ⟨inv, orderly⟩ := shutdown_invariant reachable
  constructor
  · have every : EverySetUp c (Released c) := by
      rcases inv with calm | down
      · exact calm.released
      · exact down.released orderly
    intro id held found kept
    rcases every.of_kept idle found kept with closed | released
    · exact Or.inr (Or.inl closed)
    · exact released
  · intro resolved id held found
    have every := (shutdown_started inv (by simp [resolved])).hook.of_resolved resolved
    constructor
    · cases consuming : held.consuming with
      | false => rfl
      | true =>
        -- a registered consumer has an open channel, and no connection that is over has one
        obtain ⟨opened, heard⟩ := (orderly id held found).consumer consuming
        exact absurd opened ((orderly id held found).ends (every id held found heard))
    · intro kept
      rcases every.of_kept idle found kept with closed | ends
      · exact Or.inr closed
      · exact ends

/-- A decided condition that implies `connectsInTime`. -/
def inTime (c : Client) : ClientAction → Bool
  | .setupResolves _ => !c.shuttingDown
  | _ => true

theorem inTime_sound (c : Client) (a : ClientAction) (passed : inTime c a = true) :
    connectsInTime c a := by
  rintro attempt call connection rfl _
  simpa [inTime] using passed

/-- A consumer that connects and shuts down. -/
def stopped : Client :=
  (system .orderNotificationConsumer).play inTime
    (empty.connect Service.orderNotificationConsumer.setup)
    (setupSucceeds .orderNotificationConsumer ++
      [.shutdown, .shutdownSettles true, .shutdownSettles true, .connectionCloses 0,
        .shutdownSettles true])

theorem stopped_reachable :
    (system .orderNotificationConsumer).Reachable connectsInTime stopped :=
  Transition.System.play_reachable _ inTime_sound (.init rfl) _

theorem stopped_released :
    (∀ id held, stopped.connections[id]? = some held → ¬Abandoned stopped id held →
      Released stopped id held) ∧
    (∀ id held, stopped.connections[id]? = some held → held.consuming = false ∧
      (¬Abandoned stopped id held → held.status = .closing ∨ held.status = .closed)) := by
  have released := connections_released .orderNotificationConsumer stopped stopped_reachable
    (by decide)
  exact ⟨released.1, released.2 (by decide)⟩

/-- The state of a service after those of the actions that are possible, shutdown or not. -/
def outcome (service : Service) (actions : List ClientAction) : Client :=
  (system service).play (fun _ _ => true) (empty.connect service.setup) actions

theorem outcome_reachable (service : Service) (actions : List ClientAction) :
    (system service).Reachable (fun _ _ => True) (outcome service actions) :=
  Transition.System.play_reachable _ (fun _ _ _ => trivial) (.init rfl) actions

/-- The hook has cleared the fields and waits for its channel to close. -/
def handedOver : Client :=
  outcome .orderNotificationConsumer
    (setupSucceeds .orderNotificationConsumer ++ [.shutdown, .shutdownSettles true])

/-- An `assertQueue` rejects and the connection stays open. -/
def abandoned : Client :=
  outcome .orderNotificationConsumer [.setupResolves 0, .setupResolves 0, .setupRejects 0]

/-- The hook finds nothing to close, and then `connect()` succeeds. -/
def outlived : Client :=
  outcome .orderNotificationConsumer (.shutdown :: setupSucceeds .orderNotificationConsumer)

/-- Three reachable states in which no `connect()` is in progress and a connection is open that
nobody has asked to close. In the first two it is not the current one; in the third the hook has
resolved and a consumer is registered. -/
theorem open_connections :
    ((system .orderNotificationConsumer).Reachable (fun _ _ => True) handedOver ∧
      handedOver.attempts = [] ∧ handedOver.connection = none ∧
      handedOver.connections = [⟨.opened, false, .opened, false, true⟩]) ∧
    ((system .orderNotificationConsumer).Reachable (fun _ _ => True) abandoned ∧
      abandoned.attempts = [] ∧ abandoned.connection = none ∧
      abandoned.connections = [⟨.opened, false, .opened, false, false⟩]) ∧
    ((system .orderNotificationConsumer).Reachable (fun _ _ => True) outlived ∧
      outlived.attempts = [] ∧ outlived.shutdown = .resolved ∧
      outlived.connections = [⟨.opened, false, .opened, true, true⟩]) := by
  exact ⟨⟨outcome_reachable _ _, by decide⟩, ⟨outcome_reachable _ _, by decide⟩,
    ⟨outcome_reachable _ _, by decide⟩⟩

end Client

end FlashSaleLab
