import FlashSaleLab.Connection.Repair
import FlashSaleLab.Deployment.Tasks
import FlashSaleLab.Recoverability

/-!
# The deployment recovers by its own code

In `FlashSaleLab.Recoverability` an instance is given a channel. Here its services reconnect by
themselves, and the rest of the way goes over the channels they come to: the publisher sends on its
`this.channel`, deliveries come on the consumer's and keep to its prefetch limit.
-/
namespace FlashSaleLab

open Transition

namespace Deployment

/-- A service of the instance is setting up a connection that is gone. Nobody listens yet for the
'error' of that connection, which ends the process. -/
def Doomed (d : Deployment) (host : InstanceId) : Prop :=
  ∃ service, Client.Stuck service (d.clients ⟨service, host⟩)

/-- Nothing fails any more. Only the services of `host` connect, publish and take deliveries, what
they have lost shows to them, and they shut nothing down. The process starts again if it is
doomed. -/
def unfailing (host : InstanceId) (d : Deployment) : DeploymentAction → Prop
  | .moves a => FlashSaleLab.unfailing host d.core a
  | .client party a => party.host = host ∧ Client.mends (d.clients party) a
  | .publisherResumes mover sendThrows => FlashSaleLab.unfailing host d.core
      (.publisherResumes mover (d.thisChannel (publisherOf mover)) sendThrows)
  | .deliver mover _ _ => mover = host
  | .crash mover => mover = host ∧ Doomed d host

/-- The lines are the channels that the instance's services came to, and they are open. -/
structure Lined (lines : Lines) (d : Deployment) : Prop where
  restored : ∀ service, Client.Restored service (d.clients ⟨service, lines.host⟩)
  publisher : d.thisChannel (publisherOf lines.host) = some lines.publisher
  consumer : ∃ id held channel, (d.clients (consumerOf lines.host)).connections[id]? = some held ∧
    held.status = .opened ∧ held.consuming = true ∧
    d.channelOf (consumerOf lines.host) id = some channel ∧ lines.consumer = some channel
  open_ : lines.Open d.core

variable {stock : Int → Option Nat} {d d' : Deployment} {party : Party} {lines : Lines}
  {host : InstanceId}

/-! ### What goes over the lines of the system goes over those of the deployment -/

theorem Lined.moved (lined : Lined lines d) {core : State} (open_ : lines.Open core) :
    Lined lines { d with core } :=
  ⟨lined.restored, lined.publisher, lined.consumer, open_⟩

theorem lined_step (lined : Lined lines d) {a : Action} {s' : State}
    (permitted : Serving lines d.core a) (taken : d.core.step a = some s') :
    ∃ d', (deployment stock).Steps (unfailing lines.host) d d' ∧ Lined lines d' ∧ d'.core = s' := by
  have open_ := lined.open_.stays permitted taken
  -- what concerns no channel is the same step there and here
  have moves (free : a.connectionless = true) :
      ∃ d', (deployment stock).Steps (unfailing lines.host) d d' ∧ Lined lines d' ∧
        d'.core = s' := by
    have step : (deployment stock).step d (.moves a) = some { d with core := s' } := by
      simp [deployment, Deployment.step, free, taken]
    exact ⟨_, .single ⟨.moves a, permitted.unfailing, step⟩, lined.moved open_, rfl⟩
  cases a with
  | openChannel mover => cases permitted.carried
  | loseChannel channel | noticeClose channel | crash mover => cases permitted.unfailing
  | publisherResumes mover channel sendThrows =>
    obtain ⟨unfails, carried⟩ := permitted
    -- the channel that the system's step names is the one `this.channel` is
    obtain ⟨rfl, available⟩ := unfails
    subst carried
    have step : (deployment stock).step d (.publisherResumes lines.host sendThrows) =
        some { d with core := s' } := by
      simp [deployment, Deployment.step, lined.publisher, taken]
    have condition : unfailing lines.host d (.publisherResumes lines.host sendThrows) := by
      rw [unfailing, lined.publisher]
      exact ⟨rfl, available⟩
    exact ⟨_, .single ⟨_, condition, step⟩, lined.moved open_, rfl⟩
  | deliver copy channel =>
    obtain ⟨consumes, limit⟩ := permitted.carried
    obtain ⟨id, held, own, found, opened, consuming, named, same⟩ := lined.consumer
    cases consumes.symm.trans same
    -- the client gets a task, and the instance an execution, for the delivery
    let client : Client := { d.clients (consumerOf lines.host) with
      tasks := (d.clients (consumerOf lines.host)).tasks ++ [⟨id, false⟩] }
    have registered : (d.clients (consumerOf lines.host)).deliver id = some client := by
      simp [client, Client.deliver, found, opened, consuming]
    have step : (deployment stock).step d (.deliver lines.host id copy) = some { d with
        core := s'
        clients := Function.update d.clients (consumerOf lines.host) client
        executions := Function.update d.executions lines.host
          (d.executions lines.host ++ [d.core.handlers.length]) } := by
      simp [deployment, Deployment.step, Deployment.deliver, registered, named, limit, taken]
    apply Exists.intro _
    refine ⟨.single ⟨.deliver lines.host id copy, rfl, step⟩, ⟨?_, ?_, ?_, open_⟩, rfl⟩
    · intro service
      cases service with
      | rabbitMqService => simpa using lined.restored .rabbitMqService
      | orderNotificationConsumer =>
        simp only [Function.update_self]
        exact lined.restored .orderNotificationConsumer
    · simpa [thisChannel] using lined.publisher
    · refine ⟨id, held, channel, ?_, opened, consuming, named, consumes⟩
      simp only [Function.update_self]
      exact found
  | _ => exact moves rfl

/-- The instance can follow every continuation of the system that keeps to its lines. -/
theorem Lined.follows (lined : Lined lines d) {s' : State}
    (steps : (system stock).Steps (Serving lines) d.core s') :
    ∃ d', (deployment stock).Steps (unfailing lines.host) d d' ∧ Lined lines d' ∧
      d'.core = s' := by
  apply steps.follow (R := fun d s => Lined lines d ∧ d.core = s) ?_ ⟨lined, rfl⟩
  rintro d s a s' ⟨lined, rfl⟩ permitted taken
  exact lined_step lined permitted taken

/-! ### The services reconnect -/

/-- A `connect()` that has just started awaits `amqp.connect`. -/
theorem started_free (service : Service) :
    ¬Client.Stuck service (Client.empty.connect service.setup) := by
  rintro ⟨_, impossible⟩
  cases service with
  | orderNotificationConsumer => cases impossible
  | rabbitMqService => cases impossible

/-- A doomed process starts again, and is not doomed then. -/
theorem restarted (up : ∀ service, (d.clients ⟨service, host⟩).shuttingDown = false) :
    ∃ d', (deployment stock).Steps (unfailing host) d d' ∧
      (∀ service, (d'.clients ⟨service, host⟩).shuttingDown = false) ∧ ¬Doomed d' host ∧
      d'.core.db.orders = d.core.db.orders := by
  by_cases doomed : Doomed d host
  · have step : (deployment stock).step d (.crash host) = some
        { core := { d.core.crash host with moment := d.core.moment + 1 }
          clients := fun party => if party.host = host then
            Client.empty.connect party.service.setup else d.clients party
          channelOf := fun party => if party.host = host then fun _ => none else d.channelOf party
          executions := Function.update d.executions host [] } := rfl
    refine ⟨_, .single ⟨.crash host, ⟨rfl, doomed⟩, step⟩, fun service => ?_, ?_, rfl⟩
    · simp only [if_true]
      cases service <;> rfl
    · rintro ⟨service, stuck⟩
      simp only [if_true] at stuck
      exact started_free service stuck
  · exact ⟨d, .refl, up, doomed, rfl⟩

end Deployment

end FlashSaleLab
