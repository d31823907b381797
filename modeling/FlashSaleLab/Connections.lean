import FlashSaleLab.Foundations.Transition
import FlashSaleLab.RabbitMq

/-!
# How the two services keep their connection

`RabbitMqService` publishes and `OrderNotificationConsumer` consumes; each has one connection with
one channel at a time, and both run the same reconnect protocol with different listeners and
shutdown hooks. Each call of `connect()` that got past its guard is suspended at one of its awaited
setup calls. Objects outlive the fields that held them, so every connection that was ever opened is
kept.
-/
namespace FlashSaleLab

/-- The awaited calls of `connect()`. -/
inductive SetupCall where
  | connect
  | createConfirmChannel
  | assertQueue (queue : Queue)
  | prefetch
  | consume
  deriving DecidableEq

/-- `lost`: the other side is gone and the client will notice; `closing`: `close()` was called.
In both cases the 'close' event is still to come. -/
inductive ConnectionStatus where
  | opened
  | lost
  | closing
  | closed
  deriving DecidableEq

/-- The channel object of a connection. -/
inductive ChannelObject where
  | missing
  | opened
  | closed
  deriving DecidableEq

/-- A connection that `amqp.connect` returned. `consuming` tells that a consumer is registered on
its channel, `listening` that `connect()` has registered its listeners. -/
structure Connection where
  status : ConnectionStatus
  closeCalled : Bool
  channel : ChannelObject
  consuming : Bool
  listening : Bool
  deriving DecidableEq

namespace Connection

def fresh : Connection := ⟨.opened, false, .missing, false, false⟩

/-- `connection.close()`; it rejects on a connection that is closing or closed. -/
def close (connection : Connection) : Connection :=
  { connection with
    closeCalled := true
    status := if connection.status = .opened then .closing else connection.status }

/-- The channel closes, and with it the consumer. -/
def dropChannel (connection : Connection) : Connection :=
  match connection.channel with
  | .opened => { connection with channel := .closed, consuming := false }
  | _ => connection

/-- The connection closes, and its channel with it. -/
def terminate (connection : Connection) : Connection :=
  { connection.dropChannel with status := .closed }

/-- A setup call that succeeds. -/
def perform (call : SetupCall) (connection : Connection) : Connection :=
  match call with
  | .createConfirmChannel => { connection with channel := .opened }
  | .consume => { connection with consuming := true }
  | _ => connection

/-- Calls on a channel or a connection that has failed reject. -/
def usable (call : SetupCall) (connection : Connection) : Bool :=
  decide (connection.status = .opened) &&
    (decide (call = .createConfirmChannel) || decide (connection.channel = .opened))

end Connection

/-- A suspended `connect()`: the setup calls to come, the first of them awaited, and the connection
it has opened. -/
structure Attempt where
  remaining : List SetupCall
  connection : Option Nat
  deriving DecidableEq

/-- Where a shutdown hook is, with the local constants it still needs. The last await is for
`connection.close()`, which was `refused` on a connection that is closing or closed already. -/
inductive ShutdownPc where
  | idle
  | cancelling (channel : Nat) (connection : Option Nat)
  | draining (tasks : List Nat) (channel connection : Option Nat)
  | closingChannel (channel : Nat) (connection : Option Nat)
  | closingConnection (connection : Nat) (refused : Bool)
  | resolved
  deriving DecidableEq

/-- A `handleMessage` that a delivery on the channel of a connection started. -/
structure DeliveryTask where
  connection : Nat
  finished : Bool
  deriving DecidableEq

/-- The fields of a service, its suspended calls of `connect()` and the connections it ever opened.
A channel is named by its connection. -/
structure Client where
  connections : List Connection
  connection : Option Nat
  channel : Option Nat
  consumerTag : Option Nat
  reconnectTimer : Bool
  connecting : Bool
  attempts : List Attempt
  shuttingDown : Bool
  shutdown : ShutdownPc
  tasks : List DeliveryTask
  deriving DecidableEq

inductive Service where
  | orderNotificationConsumer
  | rabbitMqService
  deriving DecidableEq

namespace Client

def empty : Client := ⟨[], none, none, none, false, false, [], false, .idle, []⟩

def modify (c : Client) (id : Nat) (f : Connection → Connection) : Client :=
  { c with connections := c.connections.modify id f }

def scheduleReconnect (c : Client) : Client :=
  if c.shuttingDown || c.reconnectTimer then c else { c with reconnectTimer := true }

/-- Start a `connect()` with these setup calls. -/
def connect (setup : List SetupCall) (c : Client) : Client :=
  if c.shuttingDown || c.connecting || c.channel.isSome then c
  else { c with connecting := true, attempts := c.attempts ++ [⟨setup, none⟩] }

/-- A shutdown hook goes on to close the connection it holds. -/
def afterChannel (c : Client) (connection : Option Nat) : Client :=
  match connection with
  | some id =>
    let refused := match c.connections[id]? with
      | some held => decide (held.status = .closing ∨ held.status = .closed)
      | none => true
    { c.modify id Connection.close with shutdown := .closingConnection id refused }
  | none => { c with shutdown := .resolved }

/-- It clears the fields and closes the channel it holds. -/
def closeChannel (c : Client) (channel connection : Option Nat) : Client :=
  let c := { c with channel := none, connection := none }
  match channel with
  | some id => { c with shutdown := .closingChannel id connection }
  | none => c.afterChannel connection

/-- The handlers in flight. -/
def inFlightHandlers (c : Client) : List Nat :=
  (List.range c.tasks.length).filter fun id =>
    decide ((c.tasks[id]?).map (·.finished) = some false)

end Client

namespace OrderNotificationConsumer

def setup : List SetupCall :=
  [.connect, .createConfirmChannel, .assertQueue .notification, .assertQueue .dlq,
    .assertQueue .retry, .assertQueue .processingRetry, .prefetch, .consume]

/-- The channel's 'close' listener. -/
def onChannelClose (id : Nat) (c : Client) : Client :=
  let c := if c.channel = some id then { c with channel := none, consumerTag := none } else c
  if !c.shuttingDown ∧ c.connection = some id then c.modify id Connection.close else c

/-- The connection's 'close' listener. -/
def onConnectionClose (id : Nat) (c : Client) : Client :=
  if c.connection = some id then
    let c := { c with connection := none, channel := none, consumerTag := none }
    if c.shuttingDown then c else c.scheduleReconnect
  else c

/-- After the drain. -/
def afterDrain (c : Client) (channel connection : Option Nat) : Client :=
  { c with consumerTag := none }.closeChannel channel connection

/-- After `cancel`, or without it. -/
def afterCancel (c : Client) (channel connection : Option Nat) : Client :=
  if c.inFlightHandlers ≠ [] then
    { c with shutdown := .draining c.inFlightHandlers channel connection }
  else afterDrain c channel connection

def beforeApplicationShutdown (c : Client) : Client :=
  let c := { c with shuttingDown := true, reconnectTimer := false }
  match c.channel, c.consumerTag with
  | some channel, some _ => { c with shutdown := .cancelling channel c.connection }
  | channel, _ => afterCancel c channel c.connection

end OrderNotificationConsumer

namespace RabbitMqService

def setup : List SetupCall :=
  [.connect, .createConfirmChannel, .assertQueue .notification, .assertQueue .dlq,
    .assertQueue .retry]

/-- The connection's 'close' listener; it does not ask whose event it is. The channel has no
listeners. -/
def onConnectionClose (c : Client) : Client :=
  let c := { c with connection := none, channel := none }
  if c.shuttingDown then c else c.scheduleReconnect

def isAvailable (c : Client) : Bool := c.connection.isSome && c.channel.isSome

def onApplicationShutdown (c : Client) : Client :=
  let c := { c with shuttingDown := true, reconnectTimer := false }
  c.closeChannel c.channel c.connection

end RabbitMqService

namespace Service

def setup : Service → List SetupCall
  | .orderNotificationConsumer => OrderNotificationConsumer.setup
  | .rabbitMqService => RabbitMqService.setup

/-- `connect()` registers an 'error' listener on the channel. -/
def hearsChannelError : Service → Bool
  | .orderNotificationConsumer => true
  | .rabbitMqService => false

def onChannelClose : Service → Nat → Client → Client
  | .orderNotificationConsumer => OrderNotificationConsumer.onChannelClose
  | .rabbitMqService => fun _ c => c

def onConnectionClose : Service → Nat → Client → Client
  | .orderNotificationConsumer => OrderNotificationConsumer.onConnectionClose
  | .rabbitMqService => fun _ => RabbitMqService.onConnectionClose

def onShutdown : Service → Client → Client
  | .orderNotificationConsumer => OrderNotificationConsumer.beforeApplicationShutdown
  | .rabbitMqService => RabbitMqService.onApplicationShutdown

/-- The end of a `connect()`: it registers the listeners and sets the fields, and `finally` ends
it. -/
def established (service : Service) (c : Client) (attempt id : Nat) : Client :=
  { c.modify id fun connection => { connection with listening := true } with
    connecting := false
    attempts := c.attempts.eraseIdx attempt
    connection := some id
    channel := some id
    consumerTag := match service with
      | .orderNotificationConsumer => some id
      | .rabbitMqService => c.consumerTag }

end Service

inductive ClientAction where
  | setupResolves (attempt : Nat)
  | setupRejects (attempt : Nat)
  | timerFires
  | lose (connection : Nat)
  /-- The broker closes the channel and leaves its connection open. -/
  | channelCloses (connection : Nat)
  /-- The connection's 'close' event, with that of its channel. -/
  | connectionCloses (connection : Nat)
  | deliver (connection : Nat)
  | handlerFinishes (task : Nat)
  | shutdown
  /-- The hook's awaited call ends. -/
  | shutdownSettles (ok : Bool)
  deriving DecidableEq

namespace Client

variable (service : Service)

/-- The awaited setup call succeeds. -/
def setupResolves (c : Client) (attempt : Nat) : Option Client :=
  match c.attempts[attempt]? with
  | some ⟨.connect :: rest, none⟩ =>
    some { c with
      connections := c.connections ++ [.fresh]
      attempts := c.attempts.set attempt ⟨rest, some c.connections.length⟩ }
  | some ⟨call :: rest, some id⟩ =>
    match c.connections[id]? with
    | some connection =>
      if connection.usable call then
        let c := c.modify id (Connection.perform call)
        match rest with
        | [] => some (service.established c attempt id)
        | rest => some { c with attempts := c.attempts.set attempt ⟨rest, some id⟩ }
      else none
    | none => none
  | _ => none

/-- The awaited setup call rejects: the catch and finally blocks. The listeners are set last; a
process that an 'error' before them takes down is one that crashes. -/
def setupRejects (c : Client) (attempt : Nat) : Option Client :=
  match c.attempts[attempt]? with
  | some _ =>
    some { c.scheduleReconnect with
      connecting := false
      attempts := c.attempts.eraseIdx attempt }
  | none => none

def timerFires (c : Client) : Option Client :=
  if c.reconnectTimer then some ({ c with reconnectTimer := false }.connect service.setup)
  else none

def lose (c : Client) (id : Nat) : Option Client :=
  match c.connections[id]? with
  | some connection =>
    if connection.status = .opened then
      some (c.modify id fun connection => { connection with status := .lost })
    else none
  | none => none

/-- The end of a connection, with the 'close' events of its channel and its own. -/
def ended (c : Client) (id : Nat) (connection : Connection) : Client :=
  let closed := c.modify id Connection.terminate
  if connection.listening then
    service.onConnectionClose id
      -- the channel's listeners come first
      (if connection.channel = .opened then service.onChannelClose id closed else closed)
  else closed

/-- amqplib emits 'error' on the channel and then 'close'. An 'error' that nobody listens for is
thrown, and amqplib gives a connection up when reading its frames throws. -/
def channelCloses (c : Client) (id : Nat) : Option Client :=
  match c.connections[id]? with
  | some connection =>
    if connection.status = .opened ∧ connection.channel = .opened then
      if connection.listening then
        if service.hearsChannelError then
          some (service.onChannelClose id (c.modify id Connection.dropChannel))
        else some (c.ended service id connection)
      -- the setup call that is awaited rejects
      else some (c.modify id Connection.dropChannel)
    else none
  | none => none

def connectionCloses (c : Client) (id : Nat) : Option Client :=
  match c.connections[id]? with
  | some connection =>
    if connection.status = .lost ∨ connection.status = .closing then
      some (c.ended service id connection)
    else none
  | none => none

def deliver (c : Client) (id : Nat) : Option Client :=
  match c.connections[id]? with
  | some connection =>
    if connection.status = .opened ∧ connection.consuming then
      some { c with tasks := c.tasks ++ [⟨id, false⟩] }
    else none
  | none => none

def handlerFinishes (c : Client) (task : Nat) : Option Client :=
  match c.tasks[task]? with
  | some running =>
    if running.finished then none
    else some { c with tasks := c.tasks.set task { running with finished := true } }
  | none => none

def startShutdown (c : Client) : Option Client :=
  if c.shutdown = .idle then some (service.onShutdown c) else none

def shutdownSettles (c : Client) (ok : Bool) : Option Client :=
  match c.shutdown with
  | .cancelling channel connection =>
    -- a `cancel` that failed leaves the consumer where it is
    let cancelled := if ok then c.modify channel fun held => { held with consuming := false } else c
    some (OrderNotificationConsumer.afterCancel cancelled (some channel) connection)
  | .draining tasks channel connection =>
    if ∀ task ∈ tasks, (c.tasks[task]?).map (·.finished) = some true then
      some (OrderNotificationConsumer.afterDrain c channel connection)
    else none
  | .closingChannel channel connection =>
    match c.connections[channel]? with
    | some held =>
      -- it resolves on an open connection and rejects on a closed channel
      if held.status = .opened ∨ held.channel ≠ .opened then
        some ((c.modify channel Connection.dropChannel).afterChannel connection)
      else none
    | none => none
  | .closingConnection connection refused =>
    if refused ∨ (c.connections[connection]?).map (·.status) = some .closed then
      some { c with shutdown := .resolved }
    else none
  | _ => none

def step (c : Client) : ClientAction → Option Client
  | .setupResolves attempt => c.setupResolves service attempt
  | .setupRejects attempt => c.setupRejects attempt
  | .timerFires => c.timerFires service
  | .lose id => c.lose id
  | .channelCloses id => c.channelCloses service id
  | .connectionCloses id => c.connectionCloses service id
  | .deliver id => c.deliver id
  | .handlerFinishes task => c.handlerFinishes task
  | .shutdown => c.startShutdown service
  | .shutdownSettles ok => c.shutdownSettles ok

/-- All runs after `onModuleInit` has called `connect()`. -/
def system : Transition.System Client ClientAction where
  init c := c = Client.empty.connect service.setup
  step c a := c.step service a

end Client

end FlashSaleLab
