import FlashSaleLab.Connection.Channels
import FlashSaleLab.Consumer.Prefetch

/-!
# The system with its connections

In `FlashSaleLab.System` channels come and go by themselves. Here each instance runs the two
services of `FlashSaleLab.Connections`, and the channels are theirs: a publisher sends on the
`this.channel` of its `RabbitMqService`, deliveries come on a channel with a registered consumer, at
most 100 at a time, and the shutdown hook waits for the executions those deliveries started.
-/
namespace FlashSaleLab

open OrderNotificationConsumer (SharedChannel.prefetch)

/-- One of the two services of an instance. -/
structure Party where
  service : Service
  host : InstanceId
  deriving DecidableEq

abbrev publisherOf (host : InstanceId) : Party := ⟨.rabbitMqService, host⟩
abbrev consumerOf (host : InstanceId) : Party := ⟨.orderNotificationConsumer, host⟩

/-- `channelOf` is the channel that a connection of a client has at the broker, and `executions`
are those behind the tasks of a consumer. -/
structure Deployment where
  core : State
  clients : Party → Client
  channelOf : Party → Nat → Option ChannelId
  executions : InstanceId → List HandlerId

inductive DeploymentAction where
  /-- A step of the system in which no connection takes part. -/
  | moves (a : Action)
  /-- A step of a client other than a delivery. -/
  | client (party : Party) (a : ClientAction)
  | publisherResumes (host : InstanceId) (sendThrows : Bool)
  | deliver (host : InstanceId) (connection : Nat) (copy : CopyId)
  | crash (host : InstanceId)

def Action.connectionless : Action → Bool
  | .openChannel _ | .loseChannel _ | .noticeClose _ | .publisherResumes _ _ _ | .deliver _ _
  | .crash _ => false
  | _ => true

namespace State

/-- A step that happens if it is possible. -/
def attempt (s : State) (a : Action) : State := (s.step a).getD s

/-- The broker takes in what was sent about the copy on this channel: a publish, or an `ack` or
`nack`. -/
def takeIn (channel : ChannelId) (s : State) (id : CopyId) : State :=
  match s.copies[id]? with
  | some copy =>
    match copy.place with
    | .wire => if copy.channel = channel then s.attempt (.store id) else s
    | .unacked _ own (some _) => if own = channel then s.attempt (.receiveSettlement id) else s
    | _ => s
  | none => s

/-- It takes in everything that was sent on the channel. -/
def flush (s : State) (channel : ChannelId) : State :=
  (List.range s.copies.length).foldl (takeIn channel) s

/-- The channel becomes what its client says. -/
def follow (s : State) (channel : ChannelId) : ChannelStatus → State
  | .opened => s
  | .lost => s.attempt (.loseChannel channel)
  | .closed => (s.attempt (.loseChannel channel)).attempt (.noticeClose channel)

end State

namespace Deployment

/-- Every instance has just called `connect()` twice. -/
def initial (stock : Int → Option Nat) : Deployment where
  core := .initial stock
  clients party := Client.empty.connect party.service.setup
  channelOf _ _ := none
  executions _ := []

/-- `this.channel` of the service. -/
def thisChannel (d : Deployment) (party : Party) : Option ChannelId :=
  (d.clients party).channel.bind (d.channelOf party)

/-- The channel of one connection follows its object; the broker opens it when it is new. -/
def align (party : Party) (d : Deployment) (id : Nat) : Deployment :=
  match (d.clients party).channelStatus id, d.channelOf party id with
  | some status, some channel => { d with core := d.core.follow channel status }
  | some status, none =>
    let channel := d.core.channels.length
    { d with
      core := (d.core.attempt (.openChannel party.host)).follow channel status
      channelOf := Function.update d.channelOf party
        (Function.update (d.channelOf party) id (some channel)) }
  | none, _ => d

/-- A hook's `channel.close()` comes after everything that was sent on the channel. The broker gets
to it at some later time, or the connection breaks before. To let it get there at the call makes no
difference to anybody: no more is sent on the channel, and a connection that breaks after the call
could have broken before it without the client noticing. -/
def beforeClose (d : Deployment) (party : Party) (client : Client) : State :=
  match client.shutdown with
  | .closingChannel id _ =>
    match d.channelOf party id with
    -- nothing arrives on a channel that is lost
    | some channel => d.core.flush channel
    | none => d.core
  | _ => d.core

/-- The client after a step of its own, and its channels after it. -/
def adopt (d : Deployment) (party : Party) (client : Client) : Deployment :=
  (List.range client.connections.length).foldl (align party)
    { d with
      core := d.beforeClose party client
      clients := Function.update d.clients party client }

def clientStep (d : Deployment) (party : Party) (a : ClientAction) : Option Deployment :=
  ((d.clients party).step party.service a).map (d.adopt party)

/-- The execution behind a task has ended. -/
def taskEnded (d : Deployment) (host : InstanceId) (task : Nat) : Bool :=
  (((d.executions host)[task]?).bind fun id => d.core.handlers[id]?).any (·.pc.ended)

/-- A task leaves `inFlightHandlers` after its execution. -/
def client (d : Deployment) (party : Party) (a : ClientAction) : Option Deployment :=
  match a with
  | .deliver _ => none
  | .handlerFinishes task => if d.taskEnded party.host task then d.clientStep party a else none
  | _ => d.clientStep party a

/-- The broker delivers on a channel with a consumer while the prefetch limit is not reached. -/
def deliver (d : Deployment) (host : InstanceId) (connection : Nat) (copy : CopyId) :
    Option Deployment :=
  match (d.clients (consumerOf host)).deliver connection,
    d.channelOf (consumerOf host) connection with
  | some client, some channel =>
    if d.core.outstanding channel < SharedChannel.prefetch then
      (d.core.step (.deliver copy channel)).map fun core =>
        { d with
          core
          clients := Function.update d.clients (consumerOf host) client
          executions :=
            Function.update d.executions host (d.executions host ++ [d.core.handlers.length]) }
    else none
  | _, _ => none

/-- The instance starts again with new services. -/
def crash (d : Deployment) (host : InstanceId) : Option Deployment :=
  (d.core.step (.crash host)).map fun core =>
    { core
      clients := fun party =>
        if party.host = host then Client.empty.connect party.service.setup else d.clients party
      channelOf := fun party => if party.host = host then fun _ => none else d.channelOf party
      executions := Function.update d.executions host [] }

def step (d : Deployment) : DeploymentAction → Option Deployment
  | .moves a =>
    if a.connectionless then (d.core.step a).map fun core => { d with core } else none
  | .client party a => d.client party a
  | .publisherResumes host sendThrows =>
    (d.core.step (.publisherResumes host (d.thisChannel (publisherOf host)) sendThrows)).map
      fun core => { d with core }
  | .deliver host connection copy => d.deliver host connection copy
  | .crash host => d.crash host

end Deployment

/-- All runs from a given inventory. -/
def deployment (stock : Int → Option Nat) : Transition.System Deployment DeploymentAction where
  init d := d = .initial stock
  step := Deployment.step

end FlashSaleLab
