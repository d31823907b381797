import FlashSaleLab.Connection.Steps

/-!
# The reconnect protocol before shutdown

A service is connecting, waiting for its timer, connected, or (the consumer only) waiting for the
'close' event of a connection whose channel has closed. `ReconnectInv` says so of every state of a
run without a shutdown. A channel that the broker closes reaches the consumer through its listener
and the publisher through the end of the connection.
-/
namespace FlashSaleLab

namespace Client

/-- Shutdown has not started. -/
def beforeShutdown (_ : Client) (a : ClientAction) : Prop := a ≠ .shutdown

/-- What holds of a suspended `connect()`. -/
structure AttemptInv (service : Service) (c : Client) (attempt : Attempt) : Prop where
  suffix : ∃ done, service.setup = done ++ attempt.remaining
  latest : ∀ id, attempt.connection = some id → id + 1 = c.connections.length
  unheard : ∀ id held, attempt.connection = some id → c.connections[id]? = some held →
    held.listening = false

/-- One `connect()` is in progress. -/
def Running (c : Client) (attempt : Attempt) : Prop :=
  c.connecting = true ∧ c.attempts = [attempt]

/-- No `connect()` is in progress. -/
def Idle (c : Client) : Prop := c.connecting = false ∧ c.attempts = []

/-- Where the protocol is. -/
inductive Phase (service : Service) (c : Client) : Prop
  | connecting (attempt : Attempt) (running : Running c attempt)
      (disarmed : c.reconnectTimer = false) (unset : c.connection = none)
      (unheld : c.channel = none)
  | waiting (idle : Idle c) (armed : c.reconnectTimer = true)
      (unset : c.connection = none) (unheld : c.channel = none)
  | established (id : Nat) (held : Connection) (idle : Idle c)
      (disarmed : c.reconnectTimer = false) (set : c.connection = some id)
      (current : c.channel = some id) (found : c.connections[id]? = some held)
      (heard : held.listening = true) (alive : held.status = .opened ∨ held.status = .lost)
      (channel : held.channel = .opened)
  | closing (id : Nat) (held : Connection) (consumer : service = .orderNotificationConsumer)
      (idle : Idle c) (disarmed : c.reconnectTimer = false)
      (set : c.connection = some id) (unheld : c.channel = none)
      (found : c.connections[id]? = some held) (heard : held.listening = true)
      (requested : held.closeCalled = true) (pending : held.status = .closing)

structure ReconnectInv (service : Service) (c : Client) : Prop where
  phase : Phase service c
  attempt : ∀ attempt, attempt ∈ c.attempts → AttemptInv service c attempt
  latest : ∀ id, c.connection = some id → id + 1 = c.connections.length
  older : ∀ (id : Nat) (held : Connection), c.connections[id]? = some held →
    held.listening = true → c.connection = some id ∨ held.status = .closed
  calm : c.shuttingDown = false ∧ c.shutdown = .idle

section Attempts

variable {c : Client} {attempt suspended : Attempt} {i : Nat}

theorem Running.only (running : Running c attempt) (awaited : c.attempts[i]? = some suspended) :
    i = 0 ∧ suspended = attempt := by
  rw [running.2] at awaited
  cases i with
  | zero => exact ⟨rfl, (Option.some.inj awaited).symm⟩
  | succ i => cases awaited

theorem Running.set (running : Running c attempt) (new : Attempt) :
    c.attempts.set 0 new = [new] := by
  rw [running.2]
  rfl

theorem Running.erase (running : Running c attempt) : c.attempts.eraseIdx 0 = [] := by
  rw [running.2]
  rfl

theorem Idle.not_awaited (idle : Idle c) (awaited : c.attempts[i]? = some suspended) : False := by
  rw [idle.2] at awaited
  cases awaited

theorem Idle.not_mem (idle : Idle c) (member : attempt ∈ c.attempts) : False := by
  rw [idle.2] at member
  cases member

end Attempts

section Lookups

variable {c : Client} {id other : Nat} {held : Connection} {f : Connection → Connection}

theorem get_modify_self (found : c.connections[id]? = some held) :
    (c.modify id f).connections[id]? = some (f held) := by
  have found := Registry.modify_of (i := id) (f := f) found
  rwa [if_pos rfl] at found

theorem get_modify_other (ne : other ≠ id) :
    (c.modify id f).connections[other]? = c.connections[other]? := by
  simp [modify, Ne.symm ne]

/-- A connection after another one, or the same, was changed. -/
theorem of_get_modify (found : (c.modify id f).connections[other]? = some held) :
    (other ≠ id ∧ c.connections[other]? = some held) ∨
    (other = id ∧ ∃ old, c.connections[id]? = some old ∧ held = f old) := by
  by_cases same : other = id
  · subst same
    obtain ⟨old, present, rfl⟩ := Registry.of_modify found
    exact Or.inr ⟨rfl, old, present, if_pos rfl⟩
  · rw [get_modify_other same] at found
    exact Or.inl ⟨same, found⟩

theorem of_get_modify_self (found : (c.modify id f).connections[id]? = some held) :
    ∃ old, c.connections[id]? = some old ∧ held = f old := by
  rcases of_get_modify found with ⟨other, _⟩ | ⟨_, changed⟩
  · exact absurd rfl other
  · exact changed

end Lookups

variable {service : Service} {c c' : Client} {a : ClientAction}

/-- A connection nobody listens to is not the current one. -/
theorem ReconnectInv.unheard_ne (inv : ReconnectInv service c) {id current : Nat}
    {held : Connection} (found : c.connections[id]? = some held) (unheard : held.listening = false)
    (set : c.connection = some current) : current ≠ id := by
  rintro rfl
  cases inv.phase with
  | connecting attempt running disarmed unset | waiting idle armed unset =>
    cases unset.symm.trans set
  | established there before idle disarmed here current present heard =>
    cases here.symm.trans set
    cases found.symm.trans present
    cases unheard.symm.trans heard
  | closing there before consumer idle disarmed here unheld present heard =>
    cases here.symm.trans set
    cases found.symm.trans present
    cases unheard.symm.trans heard

/-- What happens to a connection nobody listens to changes nothing. -/
theorem ReconnectInv.unheard (inv : ReconnectInv service c) {id : Nat} {held : Connection}
    (found : c.connections[id]? = some held) (unheard : held.listening = false)
    {f : Connection → Connection} (keeps : ∀ connection, (f connection).listening =
      connection.listening) :
    ReconnectInv service (c.modify id f) := by
  constructor
  · cases inv.phase with
    | connecting attempt running disarmed unset unheld =>
      exact .connecting attempt running disarmed unset unheld
    | waiting idle armed unset unheld => exact .waiting idle armed unset unheld
    | established current before idle disarmed set current' present heard alive channel =>
      have ne := inv.unheard_ne found unheard set
      exact .established current before idle disarmed set current'
        ((get_modify_other ne).trans present) heard alive channel
    | closing current before consumer idle disarmed set unheld present heard requested pending =>
      have ne := inv.unheard_ne found unheard set
      exact .closing current before consumer idle disarmed set unheld
        ((get_modify_other ne).trans present) heard requested pending
  · intro attempt member
    have old := inv.attempt attempt member
    refine ⟨old.suffix, ?_, ?_⟩
    · intro position opened
      rw [modify_length]
      exact old.latest position opened
    · intro position other opened present
      rcases of_get_modify present with ⟨_, there⟩ | ⟨rfl, before, there, rfl⟩
      · exact old.unheard position other opened there
      · rw [keeps]
        exact old.unheard position before opened there
  · intro current set
    rw [modify_length]
    exact inv.latest current set
  · intro position other present heard
    rcases of_get_modify present with ⟨_, there⟩ | ⟨rfl, before, there, rfl⟩
    · exact inv.older position other there heard
    · rw [keeps] at heard
      cases found.symm.trans there
      cases unheard.symm.trans heard
  · exact inv.calm

/-- The setup ends with a call on the channel. -/
theorem last_call {done : List SetupCall} {call : SetupCall}
    (same : service.setup = done ++ [call]) : call = .consume ∨ call = .assertQueue .retry := by
  have last := congrArg List.getLast? same
  rw [List.getLast?_concat] at last
  cases service with
  | orderNotificationConsumer => exact Or.inl (Option.some.inj last).symm
  | rabbitMqService => exact Or.inr (Option.some.inj last).symm

theorem ReconnectInv.connected (inv : ReconnectInv service c) {attempt : Nat}
    {rest : List SetupCall} (awaited : c.attempts[attempt]? = some ⟨.connect :: rest, none⟩) :
    ReconnectInv service { c with
      connections := c.connections ++ [.fresh]
      attempts := c.attempts.set attempt ⟨rest, some c.connections.length⟩ } := by
  have own := inv.attempt _ (List.mem_of_getElem? awaited)
  cases inv.phase with
  | connecting suspended running disarmed unset unheld =>
    obtain ⟨rfl, rfl⟩ := running.only awaited
    rw [running.set]
    constructor
    · exact .connecting _ ⟨running.1, rfl⟩ disarmed unset unheld
    · intro attempt member
      cases List.mem_singleton.mp member
      obtain ⟨done, suffix⟩ := own.suffix
      -- the new connection is the last of the list, and nobody listens to it yet
      refine ⟨⟨done ++ [.connect], by simpa using suffix⟩, ?_, ?_⟩
      · intro id opened
        cases opened
        simp
      · intro id held opened found
        cases opened
        rcases Registry.of_added found with old | ⟨_, rfl⟩
        · have := Registry.lt_of_found old
          omega
        · rfl
    · intro id set
      cases unset.symm.trans set
    · intro id held found heard
      rcases Registry.of_added found with old | ⟨_, rfl⟩
      · exact inv.older id held old heard
      · cases heard
    · exact inv.calm
  | waiting idle | established id held idle | closing id held consumer idle =>
    exact (idle.not_awaited awaited).elim

theorem ReconnectInv.performed (inv : ReconnectInv service c) {attempt : Nat} {call : SetupCall}
    {rest : List SetupCall} {id : Nat} {held : Connection}
    (awaited : c.attempts[attempt]? = some ⟨call :: rest, some id⟩)
    (found : c.connections[id]? = some held) :
    ReconnectInv service { c.modify id (Connection.perform call) with
      attempts := c.attempts.set attempt ⟨rest, some id⟩ } := by
  have own := inv.attempt _ (List.mem_of_getElem? awaited)
  have unheard := own.unheard id held rfl found
  have keeps (connection : Connection) :
      (connection.perform call).listening = connection.listening := by
    cases call <;> rfl
  have moved := inv.unheard found unheard keeps
  cases moved.phase with
  | connecting suspended running disarmed unset unheld =>
    obtain ⟨rfl, rfl⟩ := running.only awaited
    have same : c.attempts.set 0 ⟨rest, some id⟩ = [⟨rest, some id⟩] := running.set _
    rw [same]
    have current := moved.attempt _ (List.mem_of_getElem? awaited)
    constructor
    · exact .connecting _ ⟨running.1, rfl⟩ disarmed unset unheld
    · intro attempt member
      cases List.mem_singleton.mp member
      obtain ⟨done, suffix⟩ := own.suffix
      exact ⟨⟨done ++ [call], by simpa using suffix⟩, current.latest, current.unheard⟩
    · exact moved.latest
    · exact moved.older
    · exact moved.calm
  | waiting idle | established id held idle | closing id held consumer idle =>
    exact (idle.not_awaited awaited).elim

/-- After its last setup call the connection is open, with an open channel. -/
theorem ReconnectInv.setup_done (inv : ReconnectInv service c) {attempt : Nat} {call : SetupCall}
    {id : Nat} {held : Connection} (awaited : c.attempts[attempt]? = some ⟨[call], some id⟩)
    (usable : held.usable call = true) :
    (held.perform call).status = .opened ∧ (held.perform call).channel = .opened := by
  obtain ⟨done, suffix⟩ := (inv.attempt _ (List.mem_of_getElem? awaited)).suffix
  rcases last_call suffix with rfl | rfl
  · simpa [Connection.usable, Connection.perform] using usable
  · simpa [Connection.usable, Connection.perform] using usable

theorem get_established {attempt : Nat} {call : SetupCall} {id : Nat} {held : Connection}
    (found : c.connections[id]? = some held) :
    (service.established (c.modify id (Connection.perform call)) attempt id).connections[id]? =
      some { held.perform call with listening := true } :=
  get_modify_self (get_modify_self found)

theorem ReconnectInv.established (inv : ReconnectInv service c) {attempt : Nat} {call : SetupCall}
    {id : Nat} {held : Connection} (awaited : c.attempts[attempt]? = some ⟨[call], some id⟩)
    (found : c.connections[id]? = some held) (usable : held.usable call = true) :
    ReconnectInv service
      (service.established (c.modify id (Connection.perform call)) attempt id) := by
  obtain ⟨opened, channel⟩ := inv.setup_done awaited usable
  have own := inv.attempt _ (List.mem_of_getElem? awaited)
  cases inv.phase with
  | connecting suspended running disarmed unset unheld =>
    obtain ⟨rfl, rfl⟩ := running.only awaited
    have ended : Idle (service.established (c.modify id (Connection.perform call)) 0 id) :=
      ⟨rfl, running.erase⟩
    constructor
    · exact .established id _ ended disarmed rfl rfl (get_established found) rfl (Or.inl opened)
        channel
    · intro attempt member
      exact (ended.not_mem member).elim
    · intro current set
      cases set
      have latest := own.latest id rfl
      simpa [Service.established] using latest
    · intro position other there heard
      rcases of_get_modify there with ⟨ne, there⟩ | ⟨rfl, _⟩
      · rw [get_modify_other ne] at there
        rcases inv.older position other there heard with current | closed
        · cases unset.symm.trans current
        · exact Or.inr closed
      · exact Or.inl rfl
    · exact inv.calm
  | waiting idle | established id held idle | closing id held consumer idle =>
    exact (idle.not_awaited awaited).elim

theorem ReconnectInv.failed (inv : ReconnectInv service c) {attempt : Nat} {suspended : Attempt}
    (awaited : c.attempts[attempt]? = some suspended) :
    ReconnectInv service { c.scheduleReconnect with
      connecting := false
      attempts := c.attempts.eraseIdx attempt } := by
  cases inv.phase with
  | connecting only running disarmed unset unheld =>
    obtain ⟨rfl, rfl⟩ := running.only awaited
    rw [scheduleReconnect_eq, running.erase]
    constructor
    · exact .waiting ⟨rfl, rfl⟩ (by simp [inv.calm.1]) unset unheld
    · intro attempt member
      cases member
    · exact inv.latest
    · exact inv.older
    · exact inv.calm
  | waiting idle | established id held idle | closing id held consumer idle =>
    exact (idle.not_awaited awaited).elim

theorem ReconnectInv.fired (inv : ReconnectInv service c) (armed : c.reconnectTimer = true) :
    ReconnectInv service ({ c with reconnectTimer := false }.connect service.setup) := by
  cases inv.phase with
  | waiting idle _ unset unheld =>
    have begun : { c with reconnectTimer := false }.connect service.setup =
        { c with
          reconnectTimer := false
          connecting := true
          attempts := [⟨service.setup, none⟩] } := by
      simp [connect, inv.calm.1, idle.1, idle.2, unheld]
    rw [begun]
    constructor
    · exact .connecting _ ⟨rfl, rfl⟩ rfl unset unheld
    · intro attempt member
      cases List.mem_singleton.mp member
      refine ⟨⟨[], rfl⟩, ?_, ?_⟩
      · intro id opened
        cases opened
      · intro id held opened
        cases opened
    · exact inv.latest
    · exact inv.older
    · exact inv.calm
  | connecting attempt running disarmed | established id held idle disarmed
  | closing id held consumer idle disarmed => cases disarmed.symm.trans armed

/-- The current connection changes, and stays one that is open or lost. -/
theorem ReconnectInv.adjusted (inv : ReconnectInv service c) {id : Nat} {held : Connection}
    (set : c.connection = some id) (found : c.connections[id]? = some held)
    (open_ : held.status = .opened) {f : Connection → Connection}
    (heard : ∀ connection, (f connection).listening = connection.listening)
    (alive : (f held).status = .opened ∨ (f held).status = .lost)
    (channel : (f held).channel = held.channel) :
    ReconnectInv service (c.modify id f) := by
  have changed : (c.modify id f).connections[id]? = some (f held) := get_modify_self found
  constructor
  · cases inv.phase with
    | established current before idle disarmed set' current' present listening _ old =>
      -- it is the connection of the phase, so the phase stays with the changed connection
      cases set.symm.trans set'
      cases found.symm.trans present
      refine .established id _ idle disarmed set current' changed ?_ alive (channel.trans old)
      rw [heard, listening]
    | closing current before consumer idle disarmed set' unheld present _ _ pending =>
      cases set.symm.trans set'
      cases found.symm.trans present
      cases pending.symm.trans open_
    | connecting attempt running disarmed unset | waiting idle armed unset =>
      cases unset.symm.trans set
  · intro attempt member
    cases inv.phase with
    | connecting attempt running disarmed unset | waiting idle armed unset =>
      cases unset.symm.trans set
    | established current before idle | closing current before consumer idle =>
      exact (idle.not_mem member).elim
  · intro current here
    rw [modify_length]
    exact inv.latest current here
  · intro position other there listening
    rcases of_get_modify there with ⟨_, there⟩ | ⟨rfl, _⟩
    · exact inv.older position other there listening
    · exact Or.inl set
  · exact inv.calm

/-- The channel of the consumer's current connection closes: the listener asks the connection to
close as well. -/
theorem ReconnectInv.consumerChannel (inv : ReconnectInv .orderNotificationConsumer c) {id : Nat}
    {held : Connection} (set : c.connection = some id) (found : c.connections[id]? = some held)
    (opened : held.status = .opened) (channel : held.channel = .opened) :
    ReconnectInv .orderNotificationConsumer
      (OrderNotificationConsumer.onChannelClose id (c.modify id Connection.dropChannel)) := by
  cases inv.phase with
  | established current before idle disarmed set' current' present heard =>
    cases set.symm.trans set'
    cases found.symm.trans present
    have closing : OrderNotificationConsumer.onChannelClose id
        (c.modify id Connection.dropChannel) =
        { (c.modify id Connection.dropChannel).modify id Connection.close with
          channel := none, consumerTag := none } := by
      simp [OrderNotificationConsumer.onChannelClose, current', inv.calm.1, set, modify]
    have there : ((c.modify id Connection.dropChannel).modify id
        Connection.close).connections[id]? = some held.dropChannel.close :=
      get_modify_self (get_modify_self found)
    rw [closing]
    constructor
    · refine .closing id held.dropChannel.close rfl idle disarmed set rfl there ?_ ?_ ?_
      · simpa [Connection.close, Connection.dropChannel, channel] using heard
      · rfl
      · simp [Connection.close, Connection.dropChannel, channel, opened]
    · intro attempt member
      exact (idle.not_mem member).elim
    · intro current here
      have latest := inv.latest current here
      simpa using latest
    · intro position other there listening
      -- an older connection is untouched by both changes
      by_cases same : position = id
      · subst same
        exact Or.inl set
      · have there : c.connections[position]? = some other := by
          rw [← get_modify_other (f := Connection.dropChannel) same,
            ← get_modify_other (f := Connection.close) same]
          exact there
        exact inv.older position other there listening
    · exact inv.calm
  | closing current before consumer idle disarmed set' unheld present _ _ pending =>
    cases set.symm.trans set'
    cases found.symm.trans present
    cases pending.symm.trans opened
  | connecting attempt running disarmed unset | waiting idle armed unset =>
    cases unset.symm.trans set

/-- What the listeners make of the end of the current connection. -/
theorem ReconnectInv.onClose (inv : ReconnectInv service c) {id : Nat} (held : Connection)
    (set : c.connection = some id) :
    ∃ f tag, (f held).status = .closed ∧
      service.onConnectionClose id
        (if held.channel = .opened then service.onChannelClose id (c.modify id Connection.terminate)
        else c.modify id Connection.terminate) =
      { c.modify id f with
        connection := none, channel := none, consumerTag := tag, reconnectTimer := true } := by
  have calm := inv.calm.1
  have disarmed : c.reconnectTimer = false := by
    cases inv.phase with
    | established _ _ idle disarmed | closing _ _ consumer idle disarmed => exact disarmed
    | connecting attempt running disarmed unset | waiting idle armed unset =>
      cases unset.symm.trans set
  cases service with
  | rabbitMqService =>
    refine ⟨Connection.terminate, c.consumerTag, rfl, ?_⟩
    simp [Service.onConnectionClose, Service.onChannelClose, RabbitMqService.onConnectionClose,
      scheduleReconnect, modify, calm, disarmed]
  | orderNotificationConsumer =>
    cases channel : held.channel with
    | opened =>
      -- the channel's listener calls `close()` on a connection that is closed already
      refine ⟨fun connection => connection.terminate.close, none, by simp [Connection.close,
        Connection.terminate], ?_⟩
      by_cases current : c.channel = some id
      · simp [Service.onConnectionClose, Service.onChannelClose,
          OrderNotificationConsumer.onConnectionClose, OrderNotificationConsumer.onChannelClose,
          scheduleReconnect, modify, calm, disarmed, set, current, List.modify_modify_eq,
          Function.comp_def]
      · simp [Service.onConnectionClose, Service.onChannelClose,
          OrderNotificationConsumer.onConnectionClose, OrderNotificationConsumer.onChannelClose,
          scheduleReconnect, modify, calm, disarmed, set, current, List.modify_modify_eq,
          Function.comp_def]
    | missing | closed =>
      refine ⟨Connection.terminate, none, rfl, ?_⟩
      simp [Service.onConnectionClose, OrderNotificationConsumer.onConnectionClose,
        scheduleReconnect, modify, calm, disarmed, set]

/-- The current connection closes: the fields are cleared and the timer is armed. -/
theorem ReconnectInv.closed (inv : ReconnectInv service c) {id : Nat} {held : Connection}
    (set : c.connection = some id) (found : c.connections[id]? = some held)
    {f : Connection → Connection} (ends : (f held).status = .closed) (tag : Option Nat) :
    ReconnectInv service { c.modify id f with
      connection := none, channel := none, consumerTag := tag, reconnectTimer := true } := by
  -- while a `connect()` is in progress there is no current connection
  have idle : Idle c := by
    cases inv.phase with
    | established _ _ idle | closing _ _ consumer idle => exact idle
    | connecting attempt running disarmed unset | waiting idle armed unset =>
      cases unset.symm.trans set
  constructor
  · exact .waiting idle rfl rfl rfl
  · intro attempt member
    exact (idle.not_mem member).elim
  · intro current here
    cases here
  · intro position other there heard
    right
    rcases of_get_modify there with ⟨ne, present⟩ | ⟨rfl, before, present, rfl⟩
    · rcases inv.older position other present heard with current | closed
      · exact absurd (Option.some.inj (set.symm.trans current)).symm ne
      · exact closed
    · cases found.symm.trans present
      exact ends
  · exact inv.calm

/-- Deliveries and handlers do not matter to the protocol. -/
theorem ReconnectInv.tasks (inv : ReconnectInv service c) (tasks : List DeliveryTask) :
    ReconnectInv service { c with tasks } := by
  constructor
  · cases inv.phase with
    | connecting attempt running disarmed unset unheld =>
      exact .connecting attempt running disarmed unset unheld
    | waiting idle armed unset unheld => exact .waiting idle armed unset unheld
    | established id held idle disarmed set current found heard alive channel =>
      exact .established id held idle disarmed set current found heard alive channel
    | closing id held consumer idle disarmed set unheld found heard requested pending =>
      exact .closing id held consumer idle disarmed set unheld found heard requested pending
  · intro attempt member
    have old := inv.attempt attempt member
    exact ⟨old.suffix, old.latest, old.unheard⟩
  · exact inv.latest
  · exact inv.older
  · exact inv.calm

/-- A connection that ends had not closed. -/
theorem ConnectionEnds.alive {id : Nat} {held : Connection}
    (ends : ConnectionEnds service id held a) : held.status ≠ .closed := by
  intro closed
  cases ends with
  | closes pending => simp [closed] at pending
  | channelFails opened => cases opened.symm.trans closed

theorem ReconnectInv.step (inv : ReconnectInv service c) (permitted : a ≠ .shutdown)
    (acts : ClientActs service c a c') : ReconnectInv service c' := by
  cases acts with
  | connected attempt rest awaited => exact inv.connected awaited
  | performed attempt call rest id held awaited found => exact inv.performed awaited found
  | established attempt call id held awaited found usable =>
    exact inv.established awaited found usable
  | failed attempt suspended awaited => exact inv.failed awaited
  | fired armed => exact inv.fired armed
  | lost id held found opened =>
    -- a connection that is listened to and not closed is the current one
    cases heard : held.listening with
    | false => exact inv.unheard found heard fun _ => rfl
    | true =>
      rcases inv.older id held found heard with set | closed
      · exact inv.adjusted set found opened (fun _ => rfl) (Or.inr rfl) rfl
      · cases opened.symm.trans closed
  | channelUnheard id held found opened channel unheard =>
    refine inv.unheard found unheard fun connection => ?_
    unfold Connection.dropChannel
    split <;> rfl
  | channelClosed id held found opened channel heard hears =>
    rcases inv.older id held found heard with set | closed
    · cases service with
      | orderNotificationConsumer => exact inv.consumerChannel set found opened channel
      | rabbitMqService => cases hears
    · cases opened.symm.trans closed
  | connectionUnheard id held found pending unheard =>
    refine inv.unheard found unheard fun connection => ?_
    unfold Connection.terminate Connection.dropChannel
    split <;> rfl
  | connectionClosed id held found a ends heard =>
    rcases inv.older id held found heard with set | closed
    · obtain ⟨f, tag, ends, same⟩ := inv.onClose held set
      rw [same]
      exact inv.closed set found ends tag
    · exact absurd closed ends.alive
  | delivered | finished =>
    exact inv.tasks _
  | shutdownBegan idle => exact absurd rfl permitted
  | cancelled ok channel connection suspended | drained ok tasks channel connection suspended
  | channelEnded ok channel connection held suspended
  | connectionEnded ok connection refused suspended => cases inv.calm.2.symm.trans suspended

theorem reconnect_invariant (reachable : (system service).Reachable beforeShutdown c) :
    ReconnectInv service c := by
  refine reachable.invariant ?_ ?_
  · rintro c rfl
    constructor
    · exact .connecting ⟨service.setup, none⟩ ⟨rfl, rfl⟩ rfl rfl rfl
    · intro attempt member
      cases List.mem_singleton.mp member
      refine ⟨⟨[], rfl⟩, ?_, ?_⟩
      · intro id opened
        cases opened
      · intro id held opened
        cases opened
    · intro id set
      cases set
    · intro id held found
      cases found
    · exact ⟨rfl, rfl⟩
  · intro c a c' _ inv permitted taken
    exact inv.step permitted (step_acts taken)

/-- The connection is the latest that finished its setup, and either `this.channel` is its channel,
or its `close()` has been requested and its 'close' event will arm the timer. -/
def Connected (c : Client) : Prop :=
  ∃ id held, c.connection = some id ∧ c.connections[id]? = some held ∧ held.listening = true ∧
    (∀ (other : Nat) (peer : Connection), c.connections[other]? = some peer →
      peer.listening = true → other ≤ id) ∧
    ((c.channel = some id ∧ held.channel = .opened) ∨
      (c.channel = none ∧ held.closeCalled = true ∧ ∃ c',
        c.step .orderNotificationConsumer (.connectionCloses id) = some c' ∧
        c'.reconnectTimer = true))

/-- Exactly one of three propositions holds. -/
def ExactlyOne (p q r : Prop) : Prop :=
  (p ∧ ¬q ∧ ¬r) ∨ (¬p ∧ q ∧ ¬r) ∨ (¬p ∧ ¬q ∧ r)

theorem ReconnectInv.not_connected (unset : c.connection = none) : ¬Connected c := by
  rintro ⟨id, held, set, _⟩
  cases unset.symm.trans set

theorem ReconnectInv.latest_heard (inv : ReconnectInv service c) {id other : Nat}
    {peer : Connection} (set : c.connection = some id)
    (found : c.connections[other]? = some peer) : other ≤ id := by
  have latest := inv.latest id set
  have bound := Registry.lt_of_found found
  omega

/-- The pending 'close' event of the current connection arms the timer. -/
theorem ReconnectInv.closes (inv : ReconnectInv service c) {id : Nat} {held : Connection}
    (set : c.connection = some id) (found : c.connections[id]? = some held)
    (heard : held.listening = true) (pending : held.status = .lost ∨ held.status = .closing) :
    ∃ c', c.step service (.connectionCloses id) = some c' ∧ c'.reconnectTimer = true ∧
      (Idle c → Idle c') ∧ c'.channel = none ∧ c'.shuttingDown = c.shuttingDown := by
  obtain ⟨f, tag, _, same⟩ := inv.onClose held set
  refine ⟨{ c.modify id f with
      connection := none, channel := none, consumerTag := tag, reconnectTimer := true }, ?_,
    rfl, fun idle => idle, rfl, rfl⟩
  rw [← same]
  simp only [Client.step, connectionCloses, found, pending, ended, heard, if_true]

theorem ReconnectInv.exactly_one (inv : ReconnectInv .orderNotificationConsumer c) :
    ExactlyOne (c.attempts ≠ []) (c.reconnectTimer = true) (Connected c) := by
  cases inv.phase with
  | connecting attempt running disarmed unset =>
    left
    simp [running.2, disarmed, ReconnectInv.not_connected unset]
  | waiting idle armed unset =>
    right
    left
    simp [idle.2, armed, ReconnectInv.not_connected unset]
  | established id held idle disarmed set current found heard alive channel =>
    right
    right
    refine ⟨by simp [idle.2], by simp [disarmed], id, held, set, found, heard, ?_, ?_⟩
    · intro other peer present _
      exact inv.latest_heard set present
    · exact Or.inl ⟨current, channel⟩
  | closing id held consumer idle disarmed set unheld found heard requested pending =>
    right
    right
    obtain ⟨c', taken, armed, _⟩ := inv.closes set found heard (Or.inr pending)
    refine ⟨by simp [idle.2], by simp [disarmed], id, held, set, found, heard, ?_, ?_⟩
    · intro other peer present _
      exact inv.latest_heard set present
    · exact Or.inr ⟨unheld, requested, c', taken, armed⟩

/-- No two calls of `connect()` are in progress. -/
theorem ReconnectInv.one_attempt (inv : ReconnectInv service c) : c.attempts.length ≤ 1 := by
  cases inv.phase with
  | connecting attempt running => simp [running.2]
  | waiting idle | established id held idle | closing id held consumer idle => simp [idle.2]

/-- The events of a connection that is not the current one leave the fields alone. -/
theorem older_close_ignored {id older : Nat} (set : c.connection = some id)
    (held : c.channel = none ∨ c.channel = some id) (ne : older ≠ id)
    (event : a = .channelCloses older ∨ a = .connectionCloses older)
    (taken : c.step .orderNotificationConsumer a = some c') :
    c'.connection = c.connection ∧ c'.channel = c.channel ∧ c'.consumerTag = c.consumerTag ∧
      c'.reconnectTimer = c.reconnectTimer := by
  have foreign : c.channel ≠ some older := by
    rcases held with none | own
    · simp [none]
    · simp [own, Ne.symm ne]
  have channelEvent {f : Connection → Connection} :
      OrderNotificationConsumer.onChannelClose older (c.modify older f) = c.modify older f := by
    simp [OrderNotificationConsumer.onChannelClose, foreign, set, Ne.symm ne]
  have connectionEvent {f : Connection → Connection} :
      OrderNotificationConsumer.onConnectionClose older (c.modify older f) = c.modify older f := by
    simp [OrderNotificationConsumer.onConnectionClose, set, Ne.symm ne]
  cases step_acts taken with
  | channelUnheard | connectionUnheard => exact ⟨rfl, rfl, rfl, rfl⟩
  | channelClosed other before found opened channel heard =>
    have same : other = older := by
      rcases event with event | event
      · cases event
        rfl
      · cases event
    subst same
    simp only [Service.onChannelClose, channelEvent]
    exact ⟨rfl, rfl, rfl, rfl⟩
  | connectionClosed other before found a ends heard =>
    have same : other = older := by
      cases ends with
      | closes pending =>
        rcases event with event | event
        · cases event
        · cases event
          rfl
      | channelFails opened channel deaf => cases deaf
    subst same
    simp only [Service.onConnectionClose, Service.onChannelClose, channelEvent, ite_self,
      connectionEvent]
    exact ⟨rfl, rfl, rfl, rfl⟩
  | _ => rcases event with event | event <;> cases event

/-- **The consumer's reconnect machine.** In every state before shutdown exactly one of these holds:
a `connect()` is in progress (and only one), the timer is armed, or the latest connection that
finished its setup is current with its channel or about to close and arm the timer. The events of an
older connection never touch the fields of a newer one. -/
theorem reconnect_exactly_one (c : Client)
    (reachable : (system .orderNotificationConsumer).Reachable beforeShutdown c) :
    ExactlyOne (c.attempts ≠ []) (c.reconnectTimer = true) (Connected c) ∧
    c.attempts.length ≤ 1 ∧
    ∀ id, c.connection = some id → ∀ older, older ≠ id → ∀ a c',
      (a = .channelCloses older ∨ a = .connectionCloses older) →
      c.step .orderNotificationConsumer a = some c' →
      c'.connection = c.connection ∧ c'.channel = c.channel ∧ c'.consumerTag = c.consumerTag ∧
        c'.reconnectTimer = c.reconnectTimer := by
  have inv := reconnect_invariant reachable
  refine ⟨inv.exactly_one, inv.one_attempt, fun id set older ne a c' event taken => ?_⟩
  refine older_close_ignored set ?_ ne event taken
  cases inv.phase with
  | connecting attempt running disarmed unset unheld | waiting idle armed unset unheld =>
    exact Or.inl unheld
  | established current held idle disarmed set' current' =>
    cases set.symm.trans set'
    exact Or.inr current'
  | closing current held consumer idle disarmed set' unheld => exact Or.inl unheld

/-- The state of a service after those of the actions that are possible. -/
def after (service : Service) (actions : List ClientAction) : Client :=
  (system service).play (fun _ a => decide (a ≠ .shutdown)) (empty.connect service.setup) actions

theorem after_reachable (service : Service) (actions : List ClientAction) :
    (system service).Reachable beforeShutdown (after service actions) :=
  Transition.System.play_reachable _
    (fun _ a passed => of_decide_eq_true (p := a ≠ .shutdown) passed) (.init rfl) actions

/-- A `connect()` whose calls all succeed. -/
def setupSucceeds (service : Service) : List ClientAction :=
  List.replicate service.setup.length (.setupResolves 0)

/-- The channel of the consumer's first connection closes alone, and the connection's 'close' event
is still to come. -/
theorem closing_exactly_one :
    ExactlyOne ((after .orderNotificationConsumer
        (setupSucceeds .orderNotificationConsumer ++ [.channelCloses 0])).attempts ≠ [])
      ((after .orderNotificationConsumer
        (setupSucceeds .orderNotificationConsumer ++ [.channelCloses 0])).reconnectTimer = true)
      (Connected (after .orderNotificationConsumer
        (setupSucceeds .orderNotificationConsumer ++ [.channelCloses 0]))) :=
  (reconnect_exactly_one _ (after_reachable _ _)).1

end Client

end FlashSaleLab
