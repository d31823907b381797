import FlashSaleLab.Connection.Shutdown
import FlashSaleLab.Consumer.SharedChannel
import FlashSaleLab.Foundations.Promises

/-!
# The consumer with its handlers

The connection protocol of `OrderNotificationConsumer` with the executions of `handleMessage` that
its deliveries start. An execution runs on whatever becomes of its channel; the shutdown hook waits
for the promises of the executions that it finds in flight.
-/
namespace FlashSaleLab

open OrderNotificationConsumer (Outcomes firstAwait resume)

/-- An execution of `handleMessage`. `issued` tells that it has called `ack`, `nack` or
`sendToQueue`, whether or not the call threw. -/
structure Execution where
  message : Message
  pc : HandlerPc
  issued : Bool

namespace Execution

/-- The consume callback calls `handleMessage`. -/
def start (message : Message) : Execution := ⟨message, firstAwait message.content, false⟩

/-- The code after an await calls `ack`, `nack` or `sendToQueue`. -/
def callsIn (message : Message) (ops : ChannelOps) (pc : HandlerPc) : Bool :=
  -- the first such call is the same if the later ones work
  (resume message 0 { ops with ackThrows := false, nackThrows := false } pc).any fun segment =>
    segment.sent.isSome || segment.settled.isSome

def answered (execution : Execution) (outcomes : Outcomes) : Option Execution :=
  (outcomes.settle execution.pc).map fun pc => { execution with pc }

def resumes (execution : Execution) (ops : ChannelOps) : Option Execution :=
  (resume execution.message 0 ops execution.pc).map fun segment =>
    { execution with
      pc := segment.pc
      issued := execution.issued || callsIn execution.message ops execution.pc }

/-- What `handleMessage` returned. -/
def promise (execution : Execution) : Promise :=
  match execution.pc with
  | .returned => .fulfilled
  | .rejected => .rejected
  | _ => .pending

end Execution

/-- A consumer and the executions behind its tasks. -/
structure ConsumerInstance where
  client : Client
  executions : List Execution
  hookRejected : Bool

inductive InstanceAction where
  /-- A step of the connection protocol other than a delivery or the end of a handler. -/
  | protocol (action : ClientAction)
  | deliver (connection : Nat) (message : Message)
  /-- The awaited call of an execution ends. -/
  | answered (task : Nat) (outcomes : Outcomes)
  | resumes (task : Nat) (ops : ChannelOps)
  /-- The task settles and leaves `inFlightHandlers`. -/
  | finishes (task : Nat)

namespace ConsumerInstance

/-- The task of the consume callback: `handleMessage(…).catch(…)`, which logs. -/
def task (s : ConsumerInstance) (id : Nat) : Promise :=
  match s.executions[id]? with
  | some execution => execution.promise.caught
  | none => .pending

/-- What the hook waits for besides the broker: `Promise.all` of the tasks it drains. -/
def drained (s : ConsumerInstance) : Promise :=
  match s.client.shutdown with
  | .draining tasks _ _ => .all (tasks.map s.task)
  | _ => .fulfilled

def protocolStep (s : ConsumerInstance) (action : ClientAction) : Option ConsumerInstance :=
  (s.client.step .orderNotificationConsumer action).map fun client => { s with client }

def shutdownSettles (s : ConsumerInstance) (ok : Bool) : Option ConsumerInstance :=
  match s.drained with
  | .pending => none
  | .fulfilled => s.protocolStep (.shutdownSettles ok)
  -- `Promise.all` stands outside every `try` of the hook
  | .rejected => some { s with hookRejected := true }

def deliver (s : ConsumerInstance) (id : Nat) (message : Message) : Option ConsumerInstance :=
  (s.client.deliver id).map fun client =>
    { s with client, executions := s.executions ++ [.start message] }

/-- An execution goes on. -/
def advance (s : ConsumerInstance) (id : Nat) (f : Execution → Option Execution) :
    Option ConsumerInstance :=
  match s.executions[id]? with
  | some execution =>
    (f execution).map fun later => { s with executions := s.executions.set id later }
  | none => none

def finishes (s : ConsumerInstance) (id : Nat) : Option ConsumerInstance :=
  -- `task.finally(…)`
  if s.task id = .pending then none
  else (s.client.handlerFinishes id).map fun client => { s with client }

def step (s : ConsumerInstance) : InstanceAction → Option ConsumerInstance
  -- these two come with an execution
  | .protocol (.deliver _) | .protocol (.handlerFinishes _) => none
  | .protocol (.shutdownSettles ok) => s.shutdownSettles ok
  | .protocol action => s.protocolStep action
  | .deliver id message => s.deliver id message
  | .answered id outcomes => s.advance id (·.answered outcomes)
  | .resumes id ops => s.advance id (·.resumes ops)
  | .finishes id => s.finishes id

/-- All runs after `onModuleInit`. -/
def system : Transition.System ConsumerInstance InstanceAction where
  init s := s = ⟨Client.empty.connect Service.orderNotificationConsumer.setup, [], false⟩
  step := step

/-- Everything a step can do. -/
inductive InstanceActs (s : ConsumerInstance) : InstanceAction → ConsumerInstance → Prop
  | protocol (action : ClientAction) (client : Client) (undelivered : ∀ id, action ≠ .deliver id)
      (unfinished : ∀ id, action ≠ .handlerFinishes id)
      (taken : s.client.step .orderNotificationConsumer action = some client) :
      InstanceActs s (.protocol action) { s with client }
  | hookRejected (ok : Bool) (rejected : s.drained = .rejected) :
      InstanceActs s (.protocol (.shutdownSettles ok)) { s with hookRejected := true }
  | delivered (id : Nat) (message : Message) (client : Client)
      (taken : s.client.step .orderNotificationConsumer (.deliver id) = some client) :
      InstanceActs s (.deliver id message)
        { s with client, executions := s.executions ++ [.start message] }
  | answered (id : Nat) (outcomes : Outcomes) (execution : Execution) (pc : HandlerPc)
      (found : s.executions[id]? = some execution)
      (awaited : outcomes.settle execution.pc = some pc) :
      InstanceActs s (.answered id outcomes)
        { s with executions := s.executions.set id { execution with pc } }
  | resumed (id : Nat) (ops : ChannelOps) (execution : Execution) (segment : Segment)
      (found : s.executions[id]? = some execution)
      (taken : resume execution.message 0 ops execution.pc = some segment) :
      InstanceActs s (.resumes id ops)
        { s with executions := s.executions.set id { execution with
            pc := segment.pc
            issued := execution.issued || Execution.callsIn execution.message ops execution.pc } }
  | finished (id : Nat) (execution : Execution) (client : Client)
      (found : s.executions[id]? = some execution) (settled : execution.promise ≠ .pending)
      (taken : s.client.step .orderNotificationConsumer (.handlerFinishes id) = some client) :
      InstanceActs s (.finishes id) { s with client }

variable {s s' : ConsumerInstance} {a : InstanceAction}

theorem protocol_acts {action : ClientAction} (undelivered : ∀ id, action ≠ .deliver id)
    (unfinished : ∀ id, action ≠ .handlerFinishes id) (taken : s.protocolStep action = some s') :
    InstanceActs s (.protocol action) s' := by
  obtain ⟨client, moved, rfl⟩ := Option.map_eq_some_iff.mp taken
  exact .protocol action client undelivered unfinished moved

theorem advance_eq {id : Nat} {f : Execution → Option Execution}
    (taken : s.advance id f = some s') :
    ∃ execution later, s.executions[id]? = some execution ∧ f execution = some later ∧
      s' = { s with executions := s.executions.set id later } := by
  unfold advance at taken
  split at taken
  next execution found =>
    obtain ⟨later, moved, rfl⟩ := Option.map_eq_some_iff.mp taken
    exact ⟨execution, later, found, moved, rfl⟩
  · cases taken

theorem step_acts (taken : s.step a = some s') : InstanceActs s a s' := by
  cases a with
  | protocol action =>
    cases action with
    | deliver | handlerFinishes => cases taken
    | shutdownSettles ok =>
      simp only [step, shutdownSettles] at taken
      split at taken
      · cases taken
      · exact protocol_acts (by simp) (by simp) taken
      next rejected =>
        cases taken
        exact .hookRejected ok rejected
    | _ => exact protocol_acts (by simp) (by simp) taken
  | deliver id message =>
    obtain ⟨client, moved, rfl⟩ := Option.map_eq_some_iff.mp taken
    exact .delivered id message client moved
  | answered id outcomes =>
    obtain ⟨execution, later, found, moved, rfl⟩ := advance_eq taken
    obtain ⟨pc, awaited, rfl⟩ := Option.map_eq_some_iff.mp moved
    exact .answered id outcomes execution pc found awaited
  | resumes id ops =>
    obtain ⟨execution, later, found, moved, rfl⟩ := advance_eq taken
    obtain ⟨segment, resumed, rfl⟩ := Option.map_eq_some_iff.mp moved
    exact .resumed id ops execution segment found resumed
  | finishes id =>
    simp only [step, finishes] at taken
    split at taken
    · cases taken
    next settled =>
      obtain ⟨client, moved, rfl⟩ := Option.map_eq_some_iff.mp taken
      unfold task at settled
      split at settled
      next execution found =>
        exact .finished id execution client found (by simpa using settled) moved
      · exact absurd rfl settled

end ConsumerInstance

end FlashSaleLab
