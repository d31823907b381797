import FlashSaleLab.Connections
import FlashSaleLab.Foundations.Registry

/-!
# What a step does to a service's connections

`ClientActs` lists the steps; the events of a connection without listeners stand apart from those
that a service hears. The small lemmas say which fields each of the shared functions leaves alone.
-/
namespace FlashSaleLab

namespace Client

section Fields

variable (c : Client)

@[simp] theorem modify_connection (id : Nat) (f : Connection → Connection) :
    (c.modify id f).connection = c.connection :=
  rfl

@[simp] theorem modify_channel (id : Nat) (f : Connection → Connection) :
    (c.modify id f).channel = c.channel :=
  rfl

@[simp] theorem modify_attempts (id : Nat) (f : Connection → Connection) :
    (c.modify id f).attempts = c.attempts :=
  rfl

@[simp] theorem modify_shuttingDown (id : Nat) (f : Connection → Connection) :
    (c.modify id f).shuttingDown = c.shuttingDown :=
  rfl

@[simp] theorem modify_length (id : Nat) (f : Connection → Connection) :
    (c.modify id f).connections.length = c.connections.length := by
  simp [modify]

/-- Arming the timer changes nothing else. -/
theorem scheduleReconnect_eq : c.scheduleReconnect =
    { c with reconnectTimer := c.reconnectTimer || !c.shuttingDown } := by
  obtain ⟨connections, connection, channel, tag, timer, connecting, attempts, down, shutdown,
    tasks⟩ := c
  cases timer <;> cases down <;> rfl

end Fields

/-- Why a connection ends: its 'close' event was pending, or its channel fails with an 'error' that
nobody hears. -/
inductive ConnectionEnds (service : Service) (id : Nat) (held : Connection) : ClientAction → Prop
  | closes (pending : held.status = .lost ∨ held.status = .closing) :
      ConnectionEnds service id held (.connectionCloses id)
  | channelFails (opened : held.status = .opened) (channel : held.channel = .opened)
      (deaf : service.hearsChannelError = false) :
      ConnectionEnds service id held (.channelCloses id)

/-- Everything a step can do. -/
inductive ClientActs (service : Service) (c : Client) : ClientAction → Client → Prop
  | connected (attempt : Nat) (rest : List SetupCall)
      (awaited : c.attempts[attempt]? = some ⟨.connect :: rest, none⟩) :
      ClientActs service c (.setupResolves attempt)
        { c with
          connections := c.connections ++ [.fresh]
          attempts := c.attempts.set attempt ⟨rest, some c.connections.length⟩ }
  | performed (attempt : Nat) (call : SetupCall) (rest : List SetupCall) (id : Nat)
      (held : Connection) (awaited : c.attempts[attempt]? = some ⟨call :: rest, some id⟩)
      (found : c.connections[id]? = some held) (usable : held.usable call = true)
      (more : rest ≠ []) :
      ClientActs service c (.setupResolves attempt)
        { c.modify id (Connection.perform call) with
          attempts := c.attempts.set attempt ⟨rest, some id⟩ }
  | established (attempt : Nat) (call : SetupCall) (id : Nat) (held : Connection)
      (awaited : c.attempts[attempt]? = some ⟨[call], some id⟩)
      (found : c.connections[id]? = some held) (usable : held.usable call = true) :
      ClientActs service c (.setupResolves attempt)
        (service.established (c.modify id (Connection.perform call)) attempt id)
  | failed (attempt : Nat) (suspended : Attempt)
      (awaited : c.attempts[attempt]? = some suspended) :
      ClientActs service c (.setupRejects attempt)
        { c.scheduleReconnect with
          connecting := false
          attempts := c.attempts.eraseIdx attempt }
  | fired (armed : c.reconnectTimer = true) :
      ClientActs service c .timerFires ({ c with reconnectTimer := false }.connect service.setup)
  | lost (id : Nat) (held : Connection) (found : c.connections[id]? = some held)
      (opened : held.status = .opened) :
      ClientActs service c (.lose id)
        (c.modify id fun connection => { connection with status := .lost })
  | channelUnheard (id : Nat) (held : Connection) (found : c.connections[id]? = some held)
      (opened : held.status = .opened) (channel : held.channel = .opened)
      (unheard : held.listening = false) :
      ClientActs service c (.channelCloses id) (c.modify id Connection.dropChannel)
  | channelClosed (id : Nat) (held : Connection) (found : c.connections[id]? = some held)
      (opened : held.status = .opened) (channel : held.channel = .opened)
      (heard : held.listening = true) (hears : service.hearsChannelError = true) :
      ClientActs service c (.channelCloses id)
        (service.onChannelClose id (c.modify id Connection.dropChannel))
  | connectionUnheard (id : Nat) (held : Connection) (found : c.connections[id]? = some held)
      (pending : held.status = .lost ∨ held.status = .closing) (unheard : held.listening = false) :
      ClientActs service c (.connectionCloses id)
        (c.modify id Connection.terminate)
  | connectionClosed (id : Nat) (held : Connection) (found : c.connections[id]? = some held)
      (a : ClientAction) (ends : ConnectionEnds service id held a) (heard : held.listening = true) :
      ClientActs service c a
        (service.onConnectionClose id
          (if held.channel = .opened then
            service.onChannelClose id (c.modify id Connection.terminate)
          else c.modify id Connection.terminate))
  | delivered (id : Nat) (held : Connection) (found : c.connections[id]? = some held)
      (opened : held.status = .opened) (consuming : held.consuming = true) :
      ClientActs service c (.deliver id) { c with tasks := c.tasks ++ [⟨id, false⟩] }
  | finished (task : Nat) (running : DeliveryTask) (found : c.tasks[task]? = some running) :
      ClientActs service c (.handlerFinishes task)
        { c with tasks := c.tasks.set task { running with finished := true } }
  | shutdownBegan (idle : c.shutdown = .idle) :
      ClientActs service c .shutdown (service.onShutdown c)
  | cancelled (ok : Bool) (channel : Nat) (connection : Option Nat)
      (suspended : c.shutdown = .cancelling channel connection) :
      ClientActs service c (.shutdownSettles ok)
        (OrderNotificationConsumer.afterCancel
          (if ok then c.modify channel fun held => { held with consuming := false } else c)
          (some channel) connection)
  | drained (ok : Bool) (tasks : List Nat) (channel connection : Option Nat)
      (suspended : c.shutdown = .draining tasks channel connection)
      (ends : ∀ task ∈ tasks, (c.tasks[task]?).map (·.finished) = some true) :
      ClientActs service c (.shutdownSettles ok)
        (OrderNotificationConsumer.afterDrain c channel connection)
  | channelEnded (ok : Bool) (channel : Nat) (connection : Option Nat) (held : Connection)
      (suspended : c.shutdown = .closingChannel channel connection)
      (found : c.connections[channel]? = some held)
      (ended : held.status = .opened ∨ held.channel ≠ .opened) :
      ClientActs service c (.shutdownSettles ok)
        ((c.modify channel Connection.dropChannel).afterChannel connection)
  | connectionEnded (ok : Bool) (connection : Nat) (refused : Bool)
      (suspended : c.shutdown = .closingConnection connection refused)
      (ended : refused = true ∨ (c.connections[connection]?).map (·.status) = some .closed) :
      ClientActs service c (.shutdownSettles ok) { c with shutdown := .resolved }

variable {service : Service} {c c' : Client} {a : ClientAction}

theorem setupResolves_acts {attempt : Nat} (taken : c.setupResolves service attempt = some c') :
    ClientActs service c (.setupResolves attempt) c' := by
  unfold setupResolves at taken
  -- `amqp.connect` opens the connection that the other calls work on
  split at taken
  next rest awaited =>
    cases taken
    exact .connected attempt rest awaited
  next call rest id awaited =>
    split at taken
    next held found =>
      split at taken
      next usable =>
        cases rest with
        | nil =>
          cases taken
          exact .established attempt call id held awaited found usable
        | cons next rest =>
          cases taken
          exact .performed attempt call (next :: rest) id held awaited found usable (by simp)
      · cases taken
    · cases taken
  · cases taken

theorem channelCloses_acts {id : Nat} (taken : c.channelCloses service id = some c') :
    ClientActs service c (.channelCloses id) c' := by
  unfold channelCloses at taken
  split at taken
  next held found =>
    split at taken
    next open_ =>
      split at taken
      next heard =>
        split at taken
        next hears =>
          cases taken
          exact .channelClosed id held found open_.1 open_.2 heard hears
        next deaf =>
          simp only [ended, heard, if_true] at taken
          cases taken
          have ends : ConnectionEnds service id held (.channelCloses id) :=
            .channelFails open_.1 open_.2 (by simpa using deaf)
          exact .connectionClosed id held found _ ends heard
      next unheard =>
        cases taken
        exact .channelUnheard id held found open_.1 open_.2 (by simpa using unheard)
    · cases taken
  · cases taken

theorem connectionCloses_acts {id : Nat} (taken : c.connectionCloses service id = some c') :
    ClientActs service c (.connectionCloses id) c' := by
  unfold connectionCloses at taken
  split at taken
  next held found =>
    split at taken
    next pending =>
      cases heard : held.listening with
      | true =>
        simp only [ended, heard, if_true] at taken
        cases taken
        exact .connectionClosed id held found _ (.closes pending) heard
      | false =>
        simp only [ended, heard, Bool.false_eq_true, if_false] at taken
        cases taken
        exact .connectionUnheard id held found pending heard
    · cases taken
  · cases taken

theorem shutdownSettles_acts {ok : Bool} (taken : c.shutdownSettles ok = some c') :
    ClientActs service c (.shutdownSettles ok) c' := by
  unfold shutdownSettles at taken
  split at taken
  next channel connection suspended =>
    cases taken
    exact .cancelled ok channel connection suspended
  next tasks channel connection suspended =>
    split at taken
    next ends =>
      cases taken
      exact .drained ok tasks channel connection suspended ends
    · cases taken
  next channel connection suspended =>
    split at taken
    next held found =>
      split at taken
      next ended =>
        cases taken
        exact .channelEnded ok channel connection held suspended found ended
      · cases taken
    · cases taken
  next connection refused suspended =>
    split at taken
    next ended =>
      cases taken
      exact .connectionEnded ok connection refused suspended ended
    · cases taken
  · cases taken

theorem step_acts (taken : c.step service a = some c') : ClientActs service c a c' := by
  cases a with
  | setupResolves attempt => exact setupResolves_acts taken
  | setupRejects attempt =>
    simp only [step, setupRejects] at taken
    split at taken
    next suspended awaited =>
      cases taken
      exact .failed attempt suspended awaited
    · cases taken
  | timerFires =>
    simp only [step, timerFires] at taken
    split at taken
    next armed =>
      cases taken
      exact .fired armed
    · cases taken
  | lose id =>
    simp only [step, lose] at taken
    split at taken
    next held found =>
      split at taken
      next opened =>
        cases taken
        exact .lost id held found opened
      · cases taken
    · cases taken
  | channelCloses id => exact channelCloses_acts taken
  | connectionCloses id => exact connectionCloses_acts taken
  | deliver id =>
    simp only [step, deliver] at taken
    split at taken
    next held found =>
      split at taken
      next open_ =>
        cases taken
        exact .delivered id held found open_.1 open_.2
      · cases taken
    · cases taken
  | handlerFinishes task =>
    simp only [step, handlerFinishes] at taken
    split at taken
    next running found =>
      split at taken
      · cases taken
      · cases taken
        exact .finished task running found
    · cases taken
  | shutdown =>
    simp only [step, startShutdown] at taken
    split at taken
    next idle =>
      cases taken
      exact .shutdownBegan idle
    · cases taken
  | shutdownSettles ok => exact shutdownSettles_acts taken

end Client

end FlashSaleLab
