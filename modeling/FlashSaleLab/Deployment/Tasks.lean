import FlashSaleLab.Connection.Drain
import FlashSaleLab.Deployment.Links

/-!
# Executions and tasks

Every execution of `handleMessage` that still runs is a task in flight of its instance's consumer,
so the shutdown hook waits for the executions themselves; and no channel has more than 100
deliveries outstanding.
-/
namespace FlashSaleLab

open OrderNotificationConsumer Transition

section Core

variable {s s' : State} {a : Action} {mover : HandlerId} {channel : ChannelId} {handler : Handler}

/-- Moves of channels start no execution and deliver nothing. -/
theorem channelMove_handlers {stock : Int → Option Nat}
    (steps : (system stock).Steps channelMove s s') : s'.handlers = s.handlers := by
  refine steps.unchanged (f := fun s => s.handlers) fun s a s' permitted taken => ?_
  obtain ⟨t, acts, rfl⟩ := State.step_cases taken
  cases acts with
  | opened | lost | closed | stored | acked | requeued => rfl
  | _ => cases permitted

theorem channelMove_outstanding {stock : Int → Option Nat}
    (steps : (system stock).Steps channelMove s s') :
    s'.outstanding channel ≤ s.outstanding channel := by
  refine steps.stable (P := fun later => later.outstanding channel ≤ s.outstanding channel)
    (fun before a after small permitted taken => ?_) (Nat.le_refl _)
  refine (outstanding_le taken ?_).trans small
  rintro copy own rfl
  cases permitted

end Core

namespace Deployment

variable {stock : Int → Option Nat} {d d' : Deployment} {party : Party} {mover : HandlerId}
  {handler : Handler} {task : Nat} {row : DeliveryTask}

/-- The task behind which the execution runs. -/
structure Attends (d : Deployment) (mover : HandlerId) (handler : Handler) (task : Nat)
    (row : DeliveryTask) : Prop where
  execution : (d.executions handler.host)[task]? = some mover
  found : (d.clients (consumerOf handler.host)).tasks[task]? = some row
  channel : d.channelOf (consumerOf handler.host) row.connection = some handler.channel
  flight : row.finished = false

structure TaskInv (d : Deployment) : Prop where
  aligned : ∀ host, (d.executions host).length = (d.clients (consumerOf host)).tasks.length
  attended : ∀ (mover : HandlerId) (handler : Handler), d.core.handlers[mover]? = some handler →
    handler.pc.ended = false → ∃ task row, Attends d mover handler task row
  limited : ∀ channel, d.core.outstanding channel ≤ SharedChannel.prefetch

/-- A channel that a connection has stays its channel. -/
theorem align_channelOf {id other : Nat} {mine : Party} {channel : ChannelId}
    (own : d.channelOf mine other = some channel) :
    (align party d id).channelOf mine other = some channel := by
  unfold align
  split
  · exact own
  next unnamed =>
    refine (update_at _ _ _ _ _ _).trans ?_
    split
    next same =>
      obtain ⟨rfl, rfl⟩ := same
      cases unnamed.symm.trans own
    · exact own
  · exact own

theorem adopt_channelOf {client : Client} {other : Nat} {mine : Party} {channel : ChannelId}
    (own : d.channelOf mine other = some channel) :
    (d.adopt party client).channelOf mine other = some channel := by
  have folded (ids : List Nat) : ∀ d : Deployment, d.channelOf mine other = some channel →
      (ids.foldl (align party) d).channelOf mine other = some channel := by
    induction ids with
    | nil => exact fun _ own => own
    | cons id ids ih => exact fun d own => ih _ (align_channelOf own)
  exact folded _ _ own

theorem align_executions (party : Party) (d : Deployment) (id : Nat) :
    (align party d id).executions = d.executions := by
  unfold align
  split <;> rfl

theorem adopt_executions (d : Deployment) (party : Party) (client : Client) :
    (d.adopt party client).executions = d.executions := by
  have folded (ids : List Nat) : ∀ d : Deployment,
      (ids.foldl (align party) d).executions = d.executions := by
    induction ids with
    | nil => exact fun _ => rfl
    | cons id ids ih => exact fun d => (ih _).trans (align_executions party d id)
  exact folded _ _

/-- A step of the consumer other than a delivery finishes one task, or none. -/
theorem tasks_cases {c client : Client} {a : ClientAction}
    (other : ∀ connection, a ≠ .deliver connection)
    (stepped : c.step .orderNotificationConsumer a = some client) :
    client.tasks = c.tasks ∨ ∃ task running, a = .handlerFinishes task ∧
      client.tasks = c.tasks.set task running := by
  by_cases finishes : ∃ task, a = .handlerFinishes task
  · obtain ⟨task, rfl⟩ := finishes
    cases Client.step_acts stepped with
    | finished => exact Or.inr ⟨task, _, rfl, rfl⟩
    | connectionClosed _ _ _ _ ends => cases ends
  · exact Or.inl (Client.acts_tasks other (fun id same => finishes ⟨id, same⟩)
      (Client.step_acts stepped))

/-- What stays of a running execution when neither its task nor its connection is touched. -/
theorem Attends.kept (attends : Attends d mover handler task row)
    (executions : d'.executions handler.host = d.executions handler.host)
    (found : (d'.clients (consumerOf handler.host)).tasks[task]? = some row)
    (channel : d'.channelOf (consumerOf handler.host) row.connection = some handler.channel) :
    Attends d' mover handler task row :=
  ⟨by rw [executions]; exact attends.execution, found, channel, attends.flight⟩

/-- The execution has gone on; its host and its channel are the same. -/
theorem Attends.later {before : Handler} (attends : Attends d mover before task row)
    (host : before.host = handler.host) (channel : before.channel = handler.channel) :
    Attends d mover handler task row := by
  obtain ⟨execution, found, own, flight⟩ := attends
  rw [host] at execution found own
  rw [channel] at own
  exact ⟨execution, found, own, flight⟩

theorem TaskInv.core {core : State} {a : Action} (inv : TaskInv d)
    (taken : d.core.step a = some core) (undelivered : ∀ copy channel, a ≠ .deliver copy channel) :
    TaskInv { d with core } := by
  refine ⟨inv.aligned, fun mover handler found running => ?_, fun channel => ?_⟩
  · obtain ⟨before, present, ran, host, channel⟩ :=
      running_before taken found running undelivered
    obtain ⟨task, row, attends⟩ := inv.attended mover before present ran
    have later := attends.later host channel
    exact ⟨task, row, later.execution, later.found, later.channel, later.flight⟩
  · exact (outstanding_le taken undelivered).trans (inv.limited channel)

theorem TaskInv.adopted {a : ClientAction} {client : Client} (inv : TaskInv d)
    (other : ∀ connection, a ≠ .deliver connection)
    (ended : ∀ task, a = .handlerFinishes task → d.taskEnded party.host task = true)
    (stepped : (d.clients party).step party.service a = some client) :
    TaskInv (d.adopt party client) := by
  have steps : (system fun _ => none).Steps channelMove d.core (d.adopt party client).core :=
    adopt_steps d party client
  have clients := adopt_clients d party client
  constructor
  · intro host
    rw [adopt_executions, clients, inv.aligned]
    by_cases here : consumerOf host = party
    · subst here
      rw [Function.update_self]
      rcases tasks_cases other stepped with same | ⟨task, running, _, set⟩
      · rw [same]
      · rw [set, List.length_set]
    · rw [Function.update_of_ne here]
  · intro mover handler found running
    rw [channelMove_handlers steps] at found
    obtain ⟨task, row, attends⟩ := inv.attended mover handler found running
    refine ⟨task, row, attends.kept (by rw [adopt_executions]) ?_ (adopt_channelOf attends.channel)⟩
    rw [clients]
    by_cases here : consumerOf handler.host = party
    · subst here
      rw [Function.update_self]
      rcases tasks_cases other stepped with same | ⟨finished, later, finishes, set⟩
      · rw [same]
        exact attends.found
      · have apart : task ≠ finished := by
          rintro rfl
          have ran := ended task finishes
          simp [taskEnded, attends.execution, found, running] at ran
        rw [set, Registry.set_other apart]
        exact attends.found
    · rw [Function.update_of_ne here]
      exact attends.found
  · intro channel
    exact (channelMove_outstanding steps).trans (inv.limited channel)

theorem TaskInv.delivered {host : InstanceId} {connection : Nat} {copy : CopyId} {client : Client}
    {channel : ChannelId} {core : State} (inv : TaskInv d) (links : LinkInv d)
    (registered : (d.clients (consumerOf host)).deliver connection = some client)
    (own : d.channelOf (consumerOf host) connection = some channel)
    (free : d.core.outstanding channel < SharedChannel.prefetch)
    (taken : d.core.step (.deliver copy channel) = some core) :
    TaskInv { d with
      core
      clients := Function.update d.clients (consumerOf host) client
      executions :=
        Function.update d.executions host (d.executions host ++ [d.core.handlers.length]) } := by
  have adds := deliver_adds registered
  have started : ∃ new : Handler, core.handlers = d.core.handlers ++ [new] ∧ new.host = host ∧
      new.channel = channel := by
    -- the channel is one of this instance
    have host' : ∃ status, d.core.channels[channel]? = some ⟨host, status⟩ := by
      have linked := links.linked (consumerOf host) connection
      generalize (d.clients (consumerOf host)).channelStatus connection = status at linked
      cases linked with
      | missing unnamed => cases unnamed.symm.trans own
      | named channel' status own' found =>
        cases own.symm.trans own'
        exact ⟨status, found⟩
    obtain ⟨status, found⟩ := host'
    obtain ⟨t, acts, rfl⟩ := State.step_cases taken
    cases acts with
    | delivered _ given since _ consumer orderId held waiting registered'
    | refused _ given since _ consumer text held waiting registered' =>
      cases found.symm.trans registered'
      exact ⟨_, rfl, rfl, rfl⟩
  obtain ⟨new, handlers, newHost, newChannel⟩ := started
  constructor
  · intro host'
    by_cases here : host' = host
    · subst here
      simp [adds, inv.aligned]
    · have elsewhere : consumerOf host' ≠ consumerOf host := by simp [consumerOf, here]
      simp [here, inv.aligned]
  · intro mover handler found running
    simp only [handlers] at found
    rcases Registry.of_added found with old | ⟨last, rfl⟩
    · obtain ⟨task, row, attends⟩ := inv.attended mover handler old running
      refine ⟨task, row, ?_, ?_, attends.channel, attends.flight⟩
      · by_cases here : handler.host = host
        · simp only [here, Function.update_self]
          exact Registry.added_of (here ▸ attends.execution)
        · simp only [Function.update_of_ne here]
          exact attends.execution
      · by_cases here : handler.host = host
        · simp only [here, Function.update_self, adds]
          exact Registry.added_of (here ▸ attends.found)
        · have elsewhere : consumerOf handler.host ≠ consumerOf host := by simp [here]
          simp only [Function.update_of_ne elsewhere]
          exact attends.found
    · subst newHost
      subst newChannel
      refine ⟨(d.executions handler.host).length, ⟨connection, false⟩, ?_, ?_, own, rfl⟩
      · simp only [Function.update_self, last]
        exact List.getElem?_concat_length
      · simp only [Function.update_self, adds, inv.aligned]
        exact List.getElem?_concat_length
  · intro channel'
    have more : core.outstanding channel' ≤ d.core.outstanding channel' +
        (if channel' = channel then 1 else 0) := outstanding_delivered taken
    have before := inv.limited channel'
    split at more
    next same =>
      subst same
      exact more.trans free
    · exact more.trans before

theorem TaskInv.crashed {host : InstanceId} {core : State} (inv : TaskInv d)
    (taken : d.core.step (.crash host) = some core) :
    TaskInv
      { core
        clients := fun party =>
          if party.host = host then Client.empty.connect party.service.setup else d.clients party
        channelOf := fun party => if party.host = host then fun _ => none else d.channelOf party
        executions := Function.update d.executions host [] } := by
  constructor
  · intro host'
    by_cases here : host' = host
    · subst here
      simp only [Function.update_self, if_true]
      rfl
    · simp [here, inv.aligned]
  · intro mover handler found running
    obtain ⟨before, present, ran, sameHost, channel⟩ :=
      running_before taken found running (by simp)
    -- the executions of the instance itself have ended
    have elsewhere : handler.host ≠ host := by
      rintro rfl
      rw [crash_eq taken] at found
      obtain ⟨old, present', image⟩ := Registry.of_map found
      cases present.symm.trans present'
      rw [if_pos sameHost] at image
      rw [← image, crash_ended] at running
      cases running
    obtain ⟨task, row, attends⟩ := inv.attended mover before present ran
    have later := attends.later sameHost channel
    refine ⟨task, row, later.kept ?_ ?_ ?_⟩
    · simp only [Function.update_of_ne elsewhere]
    · simp only [if_neg elsewhere]
      exact later.found
    · simp only [if_neg elsewhere]
      exact later.channel
  · intro channel
    exact (outstanding_le taken (by simp)).trans (inv.limited channel)

theorem TaskInv.step {a : DeploymentAction} (inv : TaskInv d) (links : LinkInv d)
    (acts : Acts d a d') : TaskInv d' := by
  cases acts with
  | moved a core free taken =>
    refine inv.core taken ?_
    rintro copy channel rfl
    cases free
  | adopted party a client other ended stepped => exact inv.adopted other ended stepped
  | published host sendThrows core taken => exact inv.core taken (by simp)
  | delivered host connection copy client channel core registered own free taken =>
    exact inv.delivered links registered own free taken
  | crashed host core taken => exact inv.crashed taken

theorem task_invariant (reachable : (deployment stock).Reachable anyDeploymentStep d) :
    TaskInv d := by
  refine reachable.invariant ?_ fun d a d' before inv _ taken =>
    inv.step (link_invariant before) (step_acts taken)
  rintro d rfl
  refine ⟨fun host => rfl, fun mover handler found => ?_, fun channel => Nat.zero_le _⟩
  cases found

/-- **The deployment refines the system.** Whatever connects, reconnects, shuts down or dies, a run
of the instances with their connections is a run of the system. The broker's channels are in line
with the connection objects, every execution that runs is a task in flight of its instance's
consumer, and no channel has more than 100 deliveries outstanding. -/
theorem deployment_refines (stock : Int → Option Nat) (d : Deployment)
    (reachable : (deployment stock).Reachable anyDeploymentStep d) :
    (system stock).Reachable anyStep d.core ∧
    (∀ d', (deployment stock).Steps anyDeploymentStep d d' →
      (system stock).Steps anyStep d.core d'.core) ∧
    LinkInv d ∧
    (∀ (mover : HandlerId) (handler : Handler), d.core.handlers[mover]? = some handler →
      handler.pc.ended = false → ∃ task row, Attends d mover handler task row) ∧
    ∀ channel, d.core.outstanding channel ≤ 100 := by
  have refines := core_refinement stock anyDeploymentStep
  have tasks := task_invariant reachable
  exact ⟨refines.reachable reachable, fun d' steps => refines.steps reachable steps,
    link_invariant reachable, tasks.attended, tasks.limited⟩

/-- The state after those of the actions that are possible. -/
def played (stock : Int → Option Nat) (actions : List DeploymentAction) : Deployment :=
  (deployment stock).play (fun _ _ => true) (.initial stock) actions

theorem played_reachable (stock : Int → Option Nat) (actions : List DeploymentAction) :
    (deployment stock).Reachable anyDeploymentStep (played stock actions) :=
  System.play_reachable _ (fun _ _ _ => trivial) (.init rfl) actions

/-- A `connect()` whose calls all succeed. -/
def connects (party : Party) : List DeploymentAction :=
  (Client.setupSucceeds party.service).map (.client party)

/-- Instance 0 connects, sells an order, publishes its event and gets the message delivered. -/
def firstOrder : List DeploymentAction :=
  connects (publisherOf 0) ++ connects (consumerOf 0) ++
    ([.create 0 ⟨1, 7, 1⟩ "a" [], .query 0 true, .query 0 true, .query 0 true, .query 0 true,
      .query 0 true, .publishPending 0, .publisherSettles 0 .ok].map .moves) ++
    [.publisherResumes 0 false, .moves (.publisherSettles 0 .ok), .publisherResumes 0 false,
      .moves (.store 0), .deliver 0 0 0]

theorem firstOrder_refines :
    (played (fun _ => some 1) firstOrder).core.handlers.map (fun handler =>
      (handler.host, handler.channel, handler.pc)) = [(0, 1, .checking)] ∧
    (system fun _ => some 1).Reachable anyStep (played (fun _ => some 1) firstOrder).core ∧
    (played (fun _ => some 1) firstOrder).core.outstanding 1 ≤ 100 := by
  have refines := deployment_refines _ _ (played_reachable (fun _ => some 1) firstOrder)
  exact ⟨by decide +kernel, refines.1, refines.2.2.2.2 1⟩

end Deployment

end FlashSaleLab
