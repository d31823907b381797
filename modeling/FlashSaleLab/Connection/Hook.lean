import FlashSaleLab.Connection.Aging

/-!
# The shutdown hooks

A hook takes the current channel and connection, clears the fields, closes the channel and then the
connection; the consumer's hook first cancels the consumer and waits for its handlers. `HookPhase`
says at each await which connections are not over yet.
-/
namespace FlashSaleLab

namespace Client

open Connection (Over Ages Sane)

variable {service : Service} {c c' : Client} {a : ClientAction}

/-- What the hook took: a connection and its channel, a connection that is over, or nothing. -/
structure Captured (connections : List Connection) (channel connection : Option Nat) : Prop where
  present : ∀ id, connection = some id → ∃ held, connections[id]? = some held
  matching : channel = connection ∨ (channel = none ∧ ∀ (id : Nat) (held : Connection),
    connection = some id → connections[id]? = some held → held.Over)

theorem Captured.aged {channel connection : Option Nat}
    (captured : Captured c.connections channel connection) (ages : AgesTo c c') :
    Captured c'.connections channel connection := by
  constructor
  · intro id set
    obtain ⟨held, found⟩ := captured.present id set
    obtain ⟨held', there, _⟩ := ages.kept id held found
    exact ⟨held', there⟩
  · refine captured.matching.imp_right fun ⟨unheld, ends⟩ => ⟨unheld, fun id held' set there => ?_⟩
    obtain ⟨held, found⟩ := captured.present id set
    obtain ⟨held'', there', age⟩ := ages.kept id held found
    cases there.symm.trans there'
    exact age.ends (ends id held set found)

/-- While it cancels the consumer or waits for the handlers, the fields are still set. -/
structure Working (service : Service) (c : Client) (channel connection : Option Nat) : Prop where
  consumer : service = .orderNotificationConsumer
  captured : Captured c.connections channel connection
  set : c.connection = none ∨ c.connection = connection
  others : EverySetUp c fun id held => c.connection = some id ∨ held.status = .closed

/-- Where a shutdown hook is, and which connections are not over. -/
inductive HookPhase (service : Service) (c : Client) : Prop
  | cancelling (channel : Nat) (connection : Option Nat)
      (at_ : c.shutdown = .cancelling channel connection)
      (working : Working service c (some channel) connection)
  | draining (tasks : List Nat) (channel connection : Option Nat)
      (at_ : c.shutdown = .draining tasks channel connection)
      (working : Working service c channel connection)
  | closingChannel (id : Nat) (at_ : c.shutdown = .closingChannel id (some id))
      (others : EverySetUp c fun other held => other = id ∨ held.Over)
  | closingConnection (id : Nat) (refused : Bool) (held : Connection)
      (at_ : c.shutdown = .closingConnection id refused) (found : c.connections[id]? = some held)
      (requested : held.closeCalled = true) (late : refused = true → held.Over)
      (others : EverySetUp c fun other held => other = id ∨ held.Over)
  | resolved (at_ : c.shutdown = .resolved) (others : EverySetUp c fun _ held => held.Over)

/-- What a step may do to `this.connection`: nothing, or clear it once its connection has closed.
The publisher's listener clears it at any rate. -/
def Cleared (service : Service) (c c' : Client) : Prop :=
  c'.connection = c.connection ∨ (c'.connection = none ∧
    (service = .orderNotificationConsumer → ∀ (id : Nat) (held : Connection),
      c.connection = some id → c'.connections[id]? = some held → held.status = .closed))

theorem Working.aged {channel connection : Option Nat}
    (working : Working service c channel connection) (ages : AgesTo c c')
    (cleared : Cleared service c c') : Working service c' channel connection := by
  refine ⟨working.consumer, working.captured.aged ages, ?_, ?_⟩
  · rcases cleared with kept | ⟨gone, _⟩
    · rw [kept]
      exact working.set
    · exact Or.inl gone
  · refine working.others.aged ages fun id held held' found age before => ?_
    rcases before with current | closed
    -- if the field was cleared, then because the current connection closed
    · rcases cleared with kept | ⟨_, ends⟩
      · exact Or.inl (kept.trans current)
      · exact Or.inr (ends working.consumer id held' current found)
    · exact Or.inr (age.closed closed)

/-- The hook does not move, and the connections age. -/
theorem HookPhase.aged (phase : HookPhase service c) (same : c'.shutdown = c.shutdown)
    (ages : AgesTo c c') (cleared : Cleared service c c') : HookPhase service c' := by
  cases phase with
  | cancelling channel connection at_ working =>
    exact .cancelling channel connection (same.trans at_) (working.aged ages cleared)
  | draining tasks channel connection at_ working =>
    exact .draining tasks channel connection (same.trans at_) (working.aged ages cleared)
  | closingChannel id at_ others =>
    refine .closingChannel id (same.trans at_) ?_
    exact others.aged ages fun other held held' _ age before => before.imp_right age.ends
  | closingConnection id refused held at_ found requested late others =>
    obtain ⟨held', there, age⟩ := ages.kept id held found
    refine .closingConnection id refused held' (same.trans at_) there (age.requested requested)
      (fun refusal => age.ends (late refusal)) ?_
    exact others.aged ages fun other held held' _ age before => before.imp_right age.ends
  | resolved at_ others =>
    refine .resolved (same.trans at_) ?_
    exact others.aged ages fun other held held' _ age before => age.ends before

section Phases

variable (phase : HookPhase service c) {channel : Nat} {taken connection : Option Nat}

include phase

theorem HookPhase.not_idle : c.shutdown ≠ .idle := by
  intro idle
  cases phase with
  | cancelling channel connection at_ | draining tasks channel connection at_
  | closingChannel id at_ | closingConnection id refused held at_ | resolved at_ =>
    cases idle.symm.trans at_

theorem HookPhase.of_cancelling (suspended : c.shutdown = .cancelling channel connection) :
    Working service c (some channel) connection := by
  cases phase with
  | cancelling _ _ at_ working =>
    cases suspended.symm.trans at_
    exact working
  | draining tasks channel connection at_ | closingChannel id at_
  | closingConnection id refused held at_ | resolved at_ => cases suspended.symm.trans at_

theorem HookPhase.of_draining {tasks : List Nat}
    (suspended : c.shutdown = .draining tasks taken connection) :
    Working service c taken connection := by
  cases phase with
  | draining _ _ _ at_ working =>
    cases suspended.symm.trans at_
    exact working
  | cancelling channel connection at_ | closingChannel id at_
  | closingConnection id refused held at_ | resolved at_ => cases suspended.symm.trans at_

theorem HookPhase.of_closingChannel
    (suspended : c.shutdown = .closingChannel channel connection) :
    connection = some channel ∧ EverySetUp c fun id held => id = channel ∨ held.Over := by
  cases phase with
  | closingChannel _ at_ others =>
    cases suspended.symm.trans at_
    exact ⟨rfl, others⟩
  | cancelling channel connection at_ | draining tasks channel connection at_
  | closingConnection id refused held at_ | resolved at_ => cases suspended.symm.trans at_

theorem HookPhase.of_closingConnection {id : Nat} {refused : Bool}
    (suspended : c.shutdown = .closingConnection id refused) :
    ∃ held, c.connections[id]? = some held ∧ held.closeCalled = true ∧
      (refused = true → held.Over) ∧ EverySetUp c fun other held => other = id ∨ held.Over := by
  cases phase with
  | closingConnection _ _ held at_ found requested late others =>
    cases suspended.symm.trans at_
    exact ⟨held, found, requested, late, others⟩
  | cancelling channel connection at_ | draining tasks channel connection at_
  | closingChannel id at_ | resolved at_ => cases suspended.symm.trans at_

theorem HookPhase.of_resolved (resolved : c.shutdown = .resolved) :
    EverySetUp c fun _ held => held.Over := by
  cases phase with
  | resolved at_ others => exact others
  | cancelling channel connection at_ | draining tasks channel connection at_
  | closingChannel id at_ | closingConnection id refused held at_ =>
    cases resolved.symm.trans at_

end Phases

/-- The fields that a hook's later steps and the listeners leave alone during a shutdown. -/
structure KeepsSetup (c c' : Client) : Prop where
  attempts : c'.attempts = c.attempts
  down : c'.shuttingDown = c.shuttingDown
  timer : c'.reconnectTimer = c.reconnectTimer

theorem afterChannel_keeps (connection : Option Nat) :
    KeepsSetup c (c.afterChannel connection) := by
  cases connection with
  | none => exact ⟨rfl, rfl, rfl⟩
  | some id => exact ⟨rfl, rfl, rfl⟩

theorem closeChannel_keeps (channel connection : Option Nat) :
    KeepsSetup c (c.closeChannel channel connection) := by
  cases channel with
  | none =>
    have keeps := afterChannel_keeps (c := { c with channel := none, connection := none })
      connection
    exact ⟨keeps.attempts, keeps.down, keeps.timer⟩
  | some id => exact ⟨rfl, rfl, rfl⟩

theorem afterCancel_keeps (channel connection : Option Nat) :
    KeepsSetup c (OrderNotificationConsumer.afterCancel c channel connection) := by
  unfold OrderNotificationConsumer.afterCancel
  split
  · exact ⟨rfl, rfl, rfl⟩
  · have keeps := closeChannel_keeps (c := { c with consumerTag := none }) channel connection
    exact ⟨keeps.attempts, keeps.down, keeps.timer⟩

/-- The hook calls `connection.close()`, if it has a connection. -/
theorem afterChannel_phase {connection : Option Nat}
    (present : ∀ id, connection = some id → ∃ held, c.connections[id]? = some held)
    (others : EverySetUp c fun id held => connection = some id ∨ held.Over) :
    HookPhase service (c.afterChannel connection) := by
  cases connection with
  | none =>
    refine .resolved rfl fun id held found heard => ?_
    rcases others id held found heard with current | ends
    · cases current
    · exact ends
  | some id =>
    obtain ⟨held, found⟩ := present id rfl
    -- `close()` is refused only on a connection that is closing or closed
    have ages : AgesTo c (c.afterChannel (some id)) :=
      .modify (fun _ _ => Connection.close_ages) rfl
    refine .closingConnection id _ held.close rfl (get_modify_self found) rfl ?_ ?_
    · intro refused
      simp only [found, decide_eq_true_eq] at refused
      exact Connection.close_ages.ends refused
    · refine others.aged ages fun other held held' _ age before => ?_
      exact before.imp (fun same => (Option.some.inj same).symm) age.ends

theorem closeChannel_phase {channel connection : Option Nat}
    (captured : Captured c.connections channel connection)
    (others : EverySetUp c fun id held => connection = some id ∨ held.Over) :
    HookPhase service (c.closeChannel channel connection) := by
  cases channel with
  | none => exact afterChannel_phase captured.present others
  | some id =>
    rcases captured.matching with same | ⟨unheld, _⟩
    · subst same
      refine .closingChannel id rfl fun other held found heard => ?_
      exact (others other held found heard).imp_left fun same => (Option.some.inj same).symm
    · cases unheld

/-- The hook has the current connection, if there is one. -/
theorem captive_of_set {connection : Option Nat} {id : Nat} {held : Connection}
    (set : c.connection = none ∨ c.connection = connection)
    (current : c.connection = some id ∨ held.status = .closed) :
    connection = some id ∨ held.Over := by
  rcases current with current | closed
  · rcases set with cleared | same
    · cases cleared.symm.trans current
    · exact Or.inl (same.symm.trans current)
  · exact Or.inr (Or.inr closed)

/-- After `cancel` the hook drains, or goes on at once. -/
theorem afterCancel_phase {channel connection : Option Nat}
    (captured : Captured c.connections channel connection)
    (set : c.connection = none ∨ c.connection = connection)
    (others : EverySetUp c fun id held => c.connection = some id ∨ held.status = .closed) :
    HookPhase .orderNotificationConsumer
      (OrderNotificationConsumer.afterCancel c channel connection) := by
  unfold OrderNotificationConsumer.afterCancel
  split
  · exact .draining _ channel connection rfl ⟨rfl, captured, set, others⟩
  · refine closeChannel_phase captured fun id held found heard => ?_
    exact captive_of_set set (others id held found heard)

theorem Orderly.afterChannel (orderly : Orderly c) {connection : Option Nat}
    (ended : ∀ (id : Nat) (held : Connection), connection = some id →
      c.connections[id]? = some held → held.channel ≠ .opened) :
    Orderly (c.afterChannel connection) := by
  cases connection with
  | none => exact orderly
  | some id =>
    exact orderly.modify fun held found => (orderly id held found).close (ended id held rfl found)

theorem Orderly.closeChannel (orderly : Orderly c) {channel connection : Option Nat}
    (captured : Captured c.connections channel connection) :
    Orderly (c.closeChannel channel connection) := by
  cases channel with
  | some id => exact orderly
  | none =>
    refine Orderly.afterChannel (c := { c with channel := none, connection := none }) orderly ?_
    intro id held set found
    rcases captured.matching with same | ⟨_, ends⟩
    · cases same.trans set
    · exact (orderly id held found).ends (ends id held set found)

theorem Orderly.afterCancel (orderly : Orderly c) {channel connection : Option Nat}
    (captured : Captured c.connections channel connection) :
    Orderly (OrderNotificationConsumer.afterCancel c channel connection) := by
  unfold OrderNotificationConsumer.afterCancel
  split
  · exact orderly
  · exact Orderly.closeChannel (c := { c with consumerTag := none }) orderly captured

/-- The channel's listener during a shutdown. -/
theorem onChannelClose_down (service : Service) (id : Nat) (down : c.shuttingDown = true) :
    ∃ channel tag, service.onChannelClose id c =
      { c with channel := channel, consumerTag := tag } := by
  cases service with
  | rabbitMqService => exact ⟨c.channel, c.consumerTag, rfl⟩
  | orderNotificationConsumer =>
    by_cases current : c.channel = some id
    · refine ⟨none, none, ?_⟩
      simp [Service.onChannelClose, OrderNotificationConsumer.onChannelClose, current, down]
    · refine ⟨c.channel, c.consumerTag, ?_⟩
      change OrderNotificationConsumer.onChannelClose id c = c
      simp [OrderNotificationConsumer.onChannelClose, current, down]

/-- The connection's listener during a shutdown. -/
theorem onConnectionClose_down (service : Service) (id : Nat) (down : c.shuttingDown = true) :
    ∃ connection channel tag, service.onConnectionClose id c =
        { c with connection := connection, channel := channel, consumerTag := tag } ∧
      (connection = c.connection ∨ (connection = none ∧
        (service = .orderNotificationConsumer → c.connection = some id))) := by
  cases service with
  | rabbitMqService =>
    refine ⟨none, none, c.consumerTag, ?_, Or.inr ⟨rfl, fun consumer => by cases consumer⟩⟩
    simp [Service.onConnectionClose, RabbitMqService.onConnectionClose, down]
  | orderNotificationConsumer =>
    by_cases current : c.connection = some id
    · refine ⟨none, none, none, ?_, Or.inr ⟨rfl, fun _ => current⟩⟩
      simp [Service.onConnectionClose, OrderNotificationConsumer.onConnectionClose, current, down]
    · refine ⟨c.connection, c.channel, c.consumerTag, ?_, Or.inl rfl⟩
      simp [Service.onConnectionClose, OrderNotificationConsumer.onConnectionClose, current]

/-- What holds once the hook has started. -/
structure ShutdownInv (service : Service) (c : Client) : Prop where
  down : c.shuttingDown = true
  disarmed : c.reconnectTimer = false
  suffix : ∀ attempt, attempt ∈ c.attempts → ∃ done, service.setup = done ++ attempt.remaining
  hook : HookPhase service c

theorem ShutdownInv.of_keeps (inv : ShutdownInv service c) (keeps : KeepsSetup c c')
    (hook : HookPhase service c') : ShutdownInv service c' :=
  ⟨keeps.down.trans inv.down, keeps.timer.trans inv.disarmed,
    fun attempt member => inv.suffix attempt (keeps.attempts ▸ member), hook⟩

/-- A connection ages. -/
theorem ShutdownInv.aged (inv : ShutdownInv service c) {id : Nat} {f : Connection → Connection}
    (ages : ∀ held, c.connections[id]? = some held → Ages held (f held)) :
    ShutdownInv service (c.modify id f) :=
  inv.of_keeps ⟨rfl, rfl, rfl⟩ (inv.hook.aged rfl (.modify ages rfl) (Or.inl rfl))

theorem ShutdownInv.channelClosed (inv : ShutdownInv service c) {id : Nat} :
    ShutdownInv service (service.onChannelClose id (c.modify id Connection.dropChannel)) := by
  have aged : ShutdownInv service (c.modify id Connection.dropChannel) :=
    inv.aged fun _ _ => Connection.dropChannel_ages
  obtain ⟨channel, tag, same⟩ := onChannelClose_down service id aged.down
  rw [same]
  exact aged.of_keeps ⟨rfl, rfl, rfl⟩ (aged.hook.aged rfl (.same rfl) (Or.inl rfl))

theorem ShutdownInv.connectionClosed (inv : ShutdownInv service c) {id : Nat} {held : Connection}
    (found : c.connections[id]? = some held) :
    ShutdownInv service (service.onConnectionClose id (if held.channel = .opened then
      service.onChannelClose id (c.modify id Connection.terminate)
      else c.modify id Connection.terminate)) := by
  have aged : ShutdownInv service (c.modify id Connection.terminate) :=
    inv.aged fun _ _ => Connection.terminate_ages
  -- the channel's listener only clears fields
  obtain ⟨channel, tag, heard⟩ : ∃ channel tag, (if held.channel = .opened then
      service.onChannelClose id (c.modify id Connection.terminate)
      else c.modify id Connection.terminate) =
      { c.modify id Connection.terminate with channel := channel, consumerTag := tag } := by
    split
    · exact onChannelClose_down service id aged.down
    · exact ⟨_, _, rfl⟩
  rw [heard]
  obtain ⟨connection, channel', tag', same, cleared⟩ := onConnectionClose_down service id
    (c := { c.modify id Connection.terminate with channel := channel, consumerTag := tag })
    aged.down
  rw [same]
  refine inv.of_keeps ⟨rfl, rfl, rfl⟩ (inv.hook.aged rfl
    (.modify (fun _ _ => Connection.terminate_ages) rfl) (cleared.imp_right fun ⟨gone, own⟩ => ?_))
  refine ⟨gone, fun consumer other closed current there => ?_⟩
  cases (own consumer).symm.trans current
  cases (get_modify_self found).symm.trans there
  exact Connection.terminate_status

/-- What the hook finds in the fields. -/
theorem ReconnectInv.captured (inv : ReconnectInv service c) :
    Captured c.connections c.channel c.connection := by
  cases inv.phase with
  | connecting attempt running disarmed unset unheld | waiting idle armed unset unheld =>
    refine ⟨fun id set => ?_, Or.inl (unheld.trans unset.symm)⟩
    cases unset.symm.trans set
  | established id held idle disarmed set current found =>
    refine ⟨fun other here => ?_, Or.inl (current.trans set.symm)⟩
    cases set.symm.trans here
    exact ⟨held, found⟩
  | closing id held consumer idle disarmed set unheld found heard requested pending =>
    constructor
    · intro other here
      cases set.symm.trans here
      exact ⟨held, found⟩
    · refine Or.inr ⟨unheld, fun other before here there => ?_⟩
      cases set.symm.trans here
      cases found.symm.trans there
      exact Or.inl pending

/-- The hook starts. -/
theorem ReconnectInv.shutdown (inv : ReconnectInv service c) :
    ShutdownInv service (service.onShutdown c) := by
  have captured := inv.captured
  have suffix (attempt : Attempt) (member : attempt ∈ c.attempts) :=
    (inv.attempt attempt member).suffix
  have begun (s : Client)
      (keeps : KeepsSetup { c with shuttingDown := true, reconnectTimer := false } s)
      (hook : HookPhase service s) : ShutdownInv service s :=
    ⟨keeps.down, keeps.timer, fun attempt member => suffix attempt (keeps.attempts ▸ member), hook⟩
  cases service with
  | rabbitMqService =>
    apply begun _ (closeChannel_keeps c.channel c.connection)
    refine closeChannel_phase captured fun id held found heard => ?_
    exact (inv.older id held found heard).imp_right Or.inr
  | orderNotificationConsumer =>
    have cancelled : ShutdownInv .orderNotificationConsumer (OrderNotificationConsumer.afterCancel
        { c with shuttingDown := true, reconnectTimer := false } c.channel c.connection) :=
      begun _ (afterCancel_keeps c.channel c.connection)
        (afterCancel_phase captured (Or.inr rfl) inv.older)
    simp only [Service.onShutdown, OrderNotificationConsumer.beforeApplicationShutdown]
    split
    -- with a channel and a consumer tag it starts with `cancel`
    next channel tag held consuming =>
      refine begun _ ⟨rfl, rfl, rfl⟩ ?_
      exact .cancelling channel c.connection rfl ⟨rfl, held ▸ captured, Or.inr rfl, inv.older⟩
    · exact cancelled

/-- `cancel` has returned. -/
theorem ShutdownInv.cancelled (inv : ShutdownInv service c) {channel : Nat}
    {connection : Option Nat} (suspended : c.shutdown = .cancelling channel connection) :
    ShutdownInv service (OrderNotificationConsumer.afterCancel c (some channel) connection) := by
  obtain ⟨rfl, captured, set, others⟩ := inv.hook.of_cancelling suspended
  exact inv.of_keeps (afterCancel_keeps _ _) (afterCancel_phase captured set others)

/-- The handlers have finished. -/
theorem ShutdownInv.drained (inv : ShutdownInv service c) {tasks : List Nat}
    {channel connection : Option Nat}
    (suspended : c.shutdown = .draining tasks channel connection) :
    ShutdownInv service (OrderNotificationConsumer.afterDrain c channel connection) := by
  obtain ⟨_, captured, set, others⟩ := inv.hook.of_draining suspended
  have keeps := closeChannel_keeps (c := { c with consumerTag := none }) channel connection
  refine inv.of_keeps ⟨keeps.attempts, keeps.down, keeps.timer⟩ ?_
  refine closeChannel_phase captured fun id held found heard => ?_
  exact captive_of_set set (others id held found heard)

/-- `channel.close()` has returned. -/
theorem ShutdownInv.channelEnded (inv : ShutdownInv service c) {channel : Nat}
    {connection : Option Nat} {held : Connection} (found : c.connections[channel]? = some held)
    (suspended : c.shutdown = .closingChannel channel connection) :
    ShutdownInv service ((c.modify channel Connection.dropChannel).afterChannel connection) := by
  have aged : ShutdownInv service (c.modify channel Connection.dropChannel) :=
    inv.aged fun _ _ => Connection.dropChannel_ages
  obtain ⟨rfl, others⟩ := aged.hook.of_closingChannel suspended
  refine aged.of_keeps (afterChannel_keeps _) (afterChannel_phase ?_ ?_)
  · intro id same
    cases same
    exact ⟨_, get_modify_self found⟩
  · intro other held found heard
    exact (others other held found heard).imp_left fun same => congrArg some same.symm

/-- `connection.close()` has returned, or was refused. -/
theorem ShutdownInv.connectionEnded (inv : ShutdownInv service c) {connection : Nat}
    {refused : Bool} (suspended : c.shutdown = .closingConnection connection refused)
    (ended : refused = true ∨ (c.connections[connection]?).map (·.status) = some .closed) :
    ShutdownInv service { c with shutdown := .resolved } := by
  obtain ⟨held, found, _, late, others⟩ := inv.hook.of_closingConnection suspended
  -- the awaited connection has closed, or its close was refused because it was about to
  refine inv.of_keeps ⟨rfl, rfl, rfl⟩ (.resolved rfl fun other before there heard => ?_)
  rcases others other before there heard with rfl | ends
  · cases found.symm.trans there
    rcases ended with refusal | closed
    · exact late refusal
    · rw [found] at closed
      exact Or.inr (Option.some.inj closed)
  · exact ends

/-- No `connect()` succeeds once the hook has started. -/
def connectsInTime (c : Client) (a : ClientAction) : Prop :=
  ∀ attempt call connection, a = .setupResolves attempt →
    c.attempts[attempt]? = some ⟨[call], connection⟩ → c.shuttingDown = false

theorem ShutdownInv.step (inv : ShutdownInv service c) (permitted : connectsInTime c a)
    (acts : ClientActs service c a c') : ShutdownInv service c' := by
  cases acts with
  | connected attempt rest awaited =>
    refine ⟨inv.down, inv.disarmed, ?_, inv.hook.aged rfl (.added rfl) (Or.inl rfl)⟩
    obtain ⟨done, suffix⟩ := inv.suffix _ (List.mem_of_getElem? awaited)
    intro other member
    rcases List.mem_or_eq_of_mem_set member with old | rfl
    · exact inv.suffix other old
    · exact ⟨done ++ [.connect], by simpa using suffix⟩
  | performed attempt call rest id held awaited found =>
    have aged : ShutdownInv service (c.modify id (Connection.perform call)) :=
      inv.aged fun _ _ => Connection.perform_ages call
    refine ⟨inv.down, inv.disarmed, ?_, aged.hook.aged rfl (.same rfl) (Or.inl rfl)⟩
    obtain ⟨done, suffix⟩ := inv.suffix _ (List.mem_of_getElem? awaited)
    intro other member
    rcases List.mem_or_eq_of_mem_set member with old | rfl
    · exact inv.suffix other old
    · exact ⟨done ++ [call], by simpa using suffix⟩
  | established attempt call id held awaited =>
    -- no `connect()` succeeds any more
    cases inv.down.symm.trans (permitted attempt call (some id) rfl awaited)
  | failed attempt suspended awaited =>
    rw [scheduleReconnect_eq]
    refine ⟨inv.down, by simp [inv.down, inv.disarmed], ?_,
      inv.hook.aged rfl (.same rfl) (Or.inl rfl)⟩
    intro other member
    exact inv.suffix other (List.mem_of_mem_eraseIdx member)
  -- the hook has cleared the timer, and nothing arms it again
  | fired armed => cases inv.disarmed.symm.trans armed
  | lost id held found opened =>
    refine inv.aged fun before there => ?_
    cases found.symm.trans there
    exact Connection.lose_ages opened
  | channelUnheard id held found => exact inv.aged fun _ _ => Connection.dropChannel_ages
  | channelClosed id held found => exact inv.channelClosed
  | connectionUnheard id held found => exact inv.aged fun _ _ => Connection.terminate_ages
  | connectionClosed id held found => exact inv.connectionClosed found
  | delivered | finished =>
    exact inv.of_keeps ⟨rfl, rfl, rfl⟩ (inv.hook.aged rfl (.same rfl) (Or.inl rfl))
  | shutdownBegan idle => exact absurd idle inv.hook.not_idle
  | cancelled ok channel connection suspended =>
    cases ok with
    | false => exact inv.cancelled suspended
    | true =>
      have aged : ShutdownInv service
          (c.modify channel fun held => { held with consuming := false }) :=
        inv.aged fun _ _ => ⟨rfl, id, id, id⟩
      exact aged.cancelled suspended
  | drained ok tasks channel connection suspended => exact inv.drained suspended
  | channelEnded ok channel connection held suspended found =>
    exact inv.channelEnded found suspended
  | connectionEnded ok connection refused suspended ended =>
    exact inv.connectionEnded suspended ended

end Client

end FlashSaleLab
