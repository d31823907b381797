import FlashSaleLab.Deployment.Tasks

/-!
# Stopping an instance of the deployment

The shutdown hook waits for tasks. In the deployment these are the executions themselves, so when
the hook closes the channel nothing of the instance is half done: each delivery it was given has its
settlement on the way, and the broker takes that in before the channel goes.
-/
namespace FlashSaleLab

open Transition

section Core

variable {stock : Int → Option Nat} {s s' : State} {id other : CopyId} {copy : Copy}
  {mover : HandlerId} {channel : ChannelId} {sent : Settlement}

/-- Where a settlement brings a copy. -/
def Settlement.effect : Settlement → Place → Prop
  | .ack, place => place = .gone
  | .nackRequeue, place => ∃ since, place = .ready .notification since

/-- The settlement of the copy has arrived. -/
def TakenIn (s : State) (id : CopyId) (sent : Settlement) : Prop :=
  ∃ copy, s.copies[id]? = some copy ∧ sent.effect copy.place

theorem Settlement.effect.rests {place : Place} (effect : sent.effect place) :
    place ≠ .wire ∧ ∀ mover channel settlement, place ≠ .unacked mover channel settlement := by
  cases sent with
  | ack =>
    rw [show place = .gone from effect]
    simp
  | nackRequeue =>
    obtain ⟨since, rfl⟩ := effect
    simp

theorem takeIn_other (ne : other ≠ id) :
    (s.takeIn channel other).copies[id]? = s.copies[id]? := by
  have moved (place : Place) : (s.copies.move other place)[id]? = s.copies[id]? := by
    simp [Copies.move, ne]
  have attempted (a : Action) (own : a = .store other ∨ a = .receiveSettlement other) :
      (s.attempt a).copies[id]? = s.copies[id]? := by
    unfold State.attempt
    cases taken : s.step a with
    | none => rfl
    | some s' =>
      obtain ⟨t, acts, rfl⟩ := State.step_cases taken
      rcases own with rfl | rfl
      · cases acts with
        | stored => exact moved _
      · cases acts with
        | acked | requeued => exact moved _
  unfold State.takeIn
  split
  · split
    · split
      · exact attempted _ (Or.inl rfl)
      · rfl
    · split
      · exact attempted _ (Or.inr rfl)
      · rfl
    · rfl
  · rfl

theorem takeIn_settles (found : s.copies[id]? = some copy)
    (place : copy.place = .unacked mover channel (some sent)) :
    TakenIn (s.takeIn channel id) id sent := by
  cases sent with
  | ack | nackRequeue =>
    simp [TakenIn, Settlement.effect, State.takeIn, found, place, State.attempt, State.step,
      State.act, State.withCopies, Copies.receiveSettlement, Copies.move]

/-- Only its own look at a copy takes it in. -/
theorem takeIn_others (ids : List CopyId) (absent : id ∉ ids) :
    (ids.foldl (State.takeIn channel) s).copies[id]? = s.copies[id]? := by
  induction ids generalizing s with
  | nil => rfl
  | cons head rest ih =>
    rw [List.mem_cons, not_or] at absent
    exact (ih absent.2).trans (takeIn_other (Ne.symm absent.1))

/-- A copy that is looked at once is taken in. -/
theorem takeIn_all (place : copy.place = .unacked mover channel (some sent)) (ids : List CopyId)
    (distinct : ids.Nodup) (member : id ∈ ids) (found : s.copies[id]? = some copy) :
    TakenIn (ids.foldl (State.takeIn channel) s) id sent := by
  induction ids generalizing s with
  | nil => cases member
  | cons head rest ih =>
    obtain ⟨fresh, distinct⟩ := List.nodup_cons.mp distinct
    by_cases same : head = id
    · subst same
      obtain ⟨later, present, effect⟩ := takeIn_settles found place
      exact ⟨later, (takeIn_others rest fresh).trans present, effect⟩
    · have later := (List.mem_cons.mp member).resolve_left (Ne.symm same)
      exact ih distinct later ((takeIn_other same).trans found)

/-- What was sent on the channel has arrived. -/
theorem flush_settles (found : s.copies[id]? = some copy)
    (place : copy.place = .unacked mover channel (some sent)) :
    TakenIn (s.flush channel) id sent :=
  takeIn_all place _ List.nodup_range (List.mem_range.mpr (Registry.lt_of_found found)) found

/-- Moves of channels leave it at that. -/
theorem TakenIn.stays (taken : TakenIn s id sent)
    (steps : (system stock).Steps channelMove s s') : TakenIn s' id sent := by
  refine steps.stable (P := fun s => TakenIn s id sent) ?_ taken
  rintro s a s' ⟨copy, found, effect⟩ permitted taken
  obtain ⟨t, acts, rfl⟩ := State.step_cases taken
  obtain ⟨unwired, settled⟩ := effect.rests
  -- the copy that moves is another one
  have moved {other : CopyId} {given : Copy} {place : Place} (present : s.copies[other]? = some given)
      (busy : given.place ≠ copy.place) :
      ∃ copy, (s.copies.move other place)[id]? = some copy ∧ sent.effect copy.place := by
    refine ⟨copy, ?_, effect⟩
    have apart : other ≠ id := by
      rintro rfl
      cases found.symm.trans present
      exact busy rfl
    simp [Copies.move, apart, found]
  cases acts with
  | opened | closed => exact ⟨copy, found, effect⟩
  | lost gone =>
    refine ⟨copy, ?_, effect⟩
    simp only [Copies.dropChannels, List.getElem?_map, found, Option.map_some]
    cases place : copy.place with
    | unacked h c st => exact absurd place (settled h c st)
    | _ => simp [Place.dropChannel, ← place]
  | stored other given present wire => exact moved present (fun same => unwired (same ▸ wire))
  | acked other given h c present held | requeued other given h c present held =>
    exact moved present fun same => settled _ _ _ (same.symm.trans held)
  | _ => cases permitted

end Core

namespace Client

/-- The hook of the consumer starts while no `connect()` is in progress, and a channel whose
`cancel` has settled gets no further delivery. -/
def gracefully (service : Service) (c : Client) (a : ClientAction) : Prop :=
  service = .orderNotificationConsumer → (a = .shutdown → c.attempts = []) ∧
    ∀ id, a = .deliver id → cancelSettled c id = false

theorem drain_invariant {c : Client} (reachable : (system .orderNotificationConsumer).Reachable
    (gracefully .orderNotificationConsumer) c) : DrainInv c := by
  refine reachable.invariant ?_ fun c a c' _ inv permitted taken =>
    inv.step (permitted rfl).1 (permitted rfl).2 taken
  rintro c rfl
  refine ⟨.init rfl, ?_, ?_, ?_⟩
  · intro down
    cases down
  · intro id held found
    cases found
  · intro tasks awaited
    cases awaited

end Client

namespace Deployment

variable {stock : Int → Option Nat} {d d' : Deployment} {host : InstanceId}

/-- Every shutdown is graceful. -/
def graceful : Deployment → DeploymentAction → Prop := onClients Client.gracefully

theorem graceful_drains (reachable : (deployment stock).Reachable graceful d) (host : InstanceId) :
    Client.DrainInv (d.clients (consumerOf host)) :=
  Client.drain_invariant (clients_reachable reachable (consumerOf host))

/-- The hook has waited for every execution. -/
theorem closing_ended (reachable : (deployment stock).Reachable graceful d)
    (closes : (d.clients (consumerOf host)).closing = true) {mover : HandlerId} {handler : Handler}
    (found : d.core.handlers[mover]? = some handler) (own : handler.host = host) :
    handler.pc.ended = true := by
  by_contra running
  have any : (deployment stock).Reachable anyDeploymentStep d :=
    reachable.mono fun _ _ _ => trivial
  have tasks := task_invariant any
  obtain ⟨task, row, attends⟩ := tasks.attended mover handler found (by simpa using running)
  subst own
  -- a task in flight would be one that the hook still waits for
  have drains := graceful_drains reachable handler.host
  have covered := drains.covered [] (Client.awaited_of_closing closes)
  cases covered task row attends.found attends.flight

/-- Nothing is delivered to an instance that closes its channel. -/
theorem closing_sealed {a : DeploymentAction} (reachable : (deployment stock).Reachable graceful d)
    (closes : (d.clients (consumerOf host)).closing = true) (permitted : graceful d a)
    (alive : a ≠ .crash host) (acts : Acts d a d') :
    (d'.clients (consumerOf host)).closing = true ∧ d'.executions host = d.executions host := by
  have inv := graceful_drains reachable host
  have began := inv.began closes
  cases acts with
  | moved | published => exact ⟨closes, rfl⟩
  | adopted party a client other ended stepped =>
    rw [adopt_clients, adopt_executions]
    refine ⟨?_, rfl⟩
    by_cases here : consumerOf host = party
    · subst here
      rw [Function.update_self]
      exact (inv.hookActs began stepped).closing closes
    · rw [Function.update_of_ne here]
      exact closes
  | delivered mine connection copy client channel core registered =>
    have apart : host ≠ mine := by
      rintro rfl
      have taken : (d.clients (consumerOf host)).step .orderNotificationConsumer
          (.deliver connection) = some client := registered
      cases Client.step_acts taken with
      | delivered _ held found opened consuming =>
        have early := inv.attended.undelivered ((permitted rfl).2 connection rfl) found consuming
        cases early.symm.trans (Client.awaited_of_closing closes)
      | connectionClosed _ _ _ _ ends => cases ends
    have elsewhere : consumerOf host ≠ consumerOf mine := by simp [apart]
    constructor
    · simp only [Function.update_of_ne elsewhere]
      exact closes
    · simp only [Function.update_of_ne apart]
  | crashed mine =>
    have apart : host ≠ mine := by
      rintro rfl
      exact alive rfl
    constructor
    · simp only [apart, if_false]
      exact closes
    · simp only [Function.update_of_ne apart]

/-- What was sent on the channel that a hook closes arrives before the channel goes. -/
theorem adopt_takesIn {party : Party} {client : Client} {connection : Nat} {next : Option Nat}
    {id : CopyId} {copy : Copy} {mover : HandlerId} {channel : ChannelId} {sent : Settlement}
    (closes : client.shutdown = .closingChannel connection next)
    (own : d.channelOf party connection = some channel) (found : d.core.copies[id]? = some copy)
    (place : copy.place = .unacked mover channel (some sent)) :
    TakenIn (d.adopt party client).core id sent := by
  have flushed : d.beforeClose party client = d.core.flush channel := by
    simp [beforeClose, closes, own]
  have arrived : TakenIn (d.beforeClose party client) id sent := by
    rw [flushed]
    exact flush_settles found place
  have steps : (system fun _ => none).Steps channelMove (d.beforeClose party client)
      (d.adopt party client).core := beforeClose_adopt d party client
  exact arrived.stays steps

/-- It is the consumer itself whose hook gets to the close of its channel. -/
theorem close_called {a : DeploymentAction} (acts : Acts d a d')
    (before : (d.clients (consumerOf host)).closing = false)
    (closes : (d'.clients (consumerOf host)).closing = true) :
    ∃ client, d' = d.adopt (consumerOf host) client := by
  cases acts with
  | moved | published => cases before.symm.trans closes
  | adopted party a client other ended stepped =>
    by_cases here : consumerOf host = party
    · exact ⟨client, by rw [here]⟩
    · rw [adopt_clients, Function.update_of_ne here] at closes
      cases before.symm.trans closes
  | delivered mine connection copy client channel core registered =>
    simp only [deliver_adds registered] at closes
    by_cases here : host = mine
    · subst here
      rw [Function.update_self] at closes
      cases before.symm.trans closes
    · rw [Function.update_of_ne (by simp [here])] at closes
      cases before.symm.trans closes
  | crashed mine =>
    simp only at closes
    split at closes
    · cases closes
    · cases before.symm.trans closes

/-- **A graceful stop leaves nothing half done.** When the consumer's hook of an instance calls
`channel.close()`, each delivery of the instance that the broker waits for has its `ack` or `nack`
on the way, and those on the closing channel, if its connection still stands, arrive before it goes.
From then on, whatever the rest of the deployment does, none of the instance's executions runs, and
until the process ends nothing is delivered to it any more. -/
theorem graceful_stop (stock : Int → Option Nat) (d : Deployment)
    (reachable : (deployment stock).Reachable graceful d) (host : InstanceId) :
    (∀ a d', graceful d a → (deployment stock).step d a = some d' →
      (d.clients (consumerOf host)).closing = false →
      (d'.clients (consumerOf host)).closing = true →
      ∀ (id : CopyId) (copy : Copy) (mover : HandlerId) (channel : ChannelId)
        (settlement : Option Settlement) (status : ChannelStatus),
        d.core.copies[id]? = some copy → copy.place = .unacked mover channel settlement →
        d.core.channels[channel]? = some ⟨host, status⟩ →
        ∃ sent, settlement = some sent ∧ ∀ connection next,
          (d'.clients (consumerOf host)).shutdown = .closingChannel connection next →
          d.channelOf (consumerOf host) connection = some channel → TakenIn d'.core id sent) ∧
    ((d.clients (consumerOf host)).closing = true →
      (∀ (mover : HandlerId) (handler : Handler), d.core.handlers[mover]? = some handler →
        handler.host = host → handler.pc.ended = true) ∧
      ∀ d', (deployment stock).Steps (fun d a => graceful d a ∧ a ≠ .crash host) d d' →
        (d'.clients (consumerOf host)).closing = true ∧ d'.executions host = d.executions host) := by
  constructor
  · intro a d' permitted taken before closes id copy mover channel settlement status found place own
    have core := (core_refinement stock anyDeploymentStep).reachable
      (reachable.mono fun _ _ _ => trivial)
    obtain ⟨client, rfl⟩ := close_called (step_acts taken) before closes
    have steps : (system stock).Steps channelMove d.core (d.adopt (consumerOf host) client).core :=
      adopt_steps d _ client
    obtain ⟨handler, outstanding⟩ :=
      (deliveries_invariant core).1 id copy mover channel settlement found place
    cases own.symm.trans outstanding.usable
    -- its execution has ended, and so it has settled the delivery
    have present := outstanding.found
    rw [← channelMove_handlers steps] at present
    have ended := closing_ended (reachable.step permitted taken) closes present rfl
    cases settlement with
    | none => cases ended.symm.trans (outstanding.running rfl)
    | some sent =>
      refine ⟨sent, rfl, fun connection next suspended named => ?_⟩
      rw [adopt_clients, Function.update_self] at suspended
      exact adopt_takesIn suspended named found place
  · intro closes
    refine ⟨fun mover handler => closing_ended reachable closes, fun d' steps => ?_⟩
    induction steps with
    | refl => exact ⟨closes, rfl⟩
    | tail before next ih =>
      obtain ⟨a, ⟨permitted, alive⟩, taken⟩ := next
      have reached := reachable.trans (System.Steps.mono (fun _ _ both => both.1) before)
      have sealed := closing_sealed reached ih.1 permitted alive (step_acts taken)
      exact ⟨sealed.1, sealed.2.trans ih.2⟩

/-- A decided condition that implies `graceful`. -/
def checksGraceful (d : Deployment) : DeploymentAction → Bool
  | .client party .shutdown => decide (d.clients party).attempts.isEmpty
  | .client _ (.deliver _) => false
  | .deliver host connection _ => !Client.cancelSettled (d.clients (consumerOf host)) connection
  | _ => true

theorem checksGraceful_sound (d : Deployment) (a : DeploymentAction)
    (passed : checksGraceful d a = true) : graceful d a := by
  cases a with
  | client party a =>
    rintro -
    constructor
    · rintro rfl
      simpa [checksGraceful] using passed
    · rintro id rfl
      cases passed
  | deliver host connection copy =>
    rintro -
    constructor
    · rintro ⟨⟩
    · rintro id ⟨⟩
      simpa [checksGraceful] using passed
  | moves | publisherResumes | crash => trivial

/-- Instance 0 has handled the message of its first order, and acked it, while the hook waited. -/
def drained : Deployment :=
  (deployment fun _ => some 1).play checksGraceful (.initial fun _ => some 1)
    (firstOrder ++ [.shutdown, .shutdownSettles true].map (.client (consumerOf 0)) ++
      ((List.replicate 5 [.handlerSettles 0 .ok, .handlerResumes 0 false]).flatten.map .moves) ++
      [.client (consumerOf 0) (.handlerFinishes 0)])

/-- Then it calls `channel.close()`. -/
def stopped : Deployment :=
  ((deployment fun _ => some 1).step drained
    (.client (consumerOf 0) (.shutdownSettles true))).getD drained

theorem stopped_sealed :
    drained.core.copies.map (·.place) = [.unacked 0 1 (some .ack)] ∧
    TakenIn stopped.core 0 .ack ∧ stopped.executions 0 = [0] ∧
    ∀ d', (deployment fun _ => some 1).Steps (fun d a => graceful d a ∧ a ≠ .crash 0) stopped d' →
      d'.executions 0 = [0] := by
  have reachable : (deployment fun _ => some 1).Reachable graceful drained :=
    System.play_reachable _ checksGraceful_sound (.init rfl) _
  have waits : drained.core.copies.map (·.place) = [.unacked 0 1 (some .ack)] := by decide +kernel
  have permitted : graceful drained (.client (consumerOf 0) (.shutdownSettles true)) :=
    checksGraceful_sound drained _ rfl
  have taken : (deployment fun _ => some 1).step drained
      (.client (consumerOf 0) (.shutdownSettles true)) = some stopped := by
    have possible : ((deployment fun _ => some 1).step drained
        (.client (consumerOf 0) (.shutdownSettles true))).isSome = true := by decide +kernel
    obtain ⟨after, step⟩ := Option.isSome_iff_exists.mp possible
    simp only [stopped, step, Option.getD_some]
  have closes : (stopped.clients (consumerOf 0)).closing = true := by decide +kernel
  have executions : stopped.executions 0 = [0] := by decide +kernel
  have stop := graceful_stop _ stopped (reachable.step permitted taken) 0
  refine ⟨waits, ?_, executions, fun d' steps => ((stop.2 closes).2 d' steps).2.trans executions⟩
  -- the ack was on its way when the hook closed the channel
  obtain ⟨copy, found⟩ : ∃ copy, drained.core.copies[0]? = some copy := by
    cases copies : drained.core.copies with
    | nil => simp [copies] at waits
    | cons copy rest => exact ⟨copy, rfl⟩
  have place : copy.place = .unacked 0 1 (some .ack) := by
    have first := congrArg (·[0]?) waits
    simpa [found] using first
  have opened : (drained.clients (consumerOf 0)).closing = false := by decide +kernel
  obtain ⟨sent, same, arrives⟩ := (graceful_stop _ drained reachable 0).1 _ _ permitted taken opened
    closes 0 copy 0 1 _ .opened found place (by decide +kernel)
  cases same
  exact arrives 0 (some 0) (by decide +kernel) (by decide +kernel)

end Deployment

end FlashSaleLab
