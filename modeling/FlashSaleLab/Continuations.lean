import FlashSaleLab.Consumer.Prefetch
import FlashSaleLab.Foundations.Progress
import FlashSaleLab.Outbox.Announcements

/-!
# Runs in which nothing fails any more

`unfailing host` allows the steps of a continuation in which no instance dies, no channel is lost
and every call succeeds. Of the publishers only that of `host` moves, and nothing is sold. What
failed before has to be dealt with: a publisher that waits for a confirmation from a channel that is
gone gets its rejection. `Serving` allows the same to an instance that has its channels and opens no
other: one its publisher sends on, and one it consumes from up to the prefetch limit.
-/
namespace FlashSaleLab

open PrismaOutboxRepository Transition

/-- The publisher at `pc` awaits a confirmation the broker cannot send any more. -/
def State.unconfirmable (s : State) (pc : PublisherPc) : Prop :=
  ∃ event rest id copy, pc = .publishing event rest id ∧ s.copies[id]? = some copy ∧
    copy.place = .wire ∧ s.channelStatus copy.channel ≠ some .opened

/-- The only instance that publishes is `host`, and nothing fails. -/
def unfailing (host : InstanceId) (s : State) : Action → Prop
  | .tick _ => True
  | .publishPending mover => mover = host
  | .publisherSettles mover result =>
    mover = host ∧ (result = .ok ∨ s.unconfirmable (s.publishers host).pc)
  | .publisherResumes mover channel sendThrows =>
    mover = host ∧ s.unavailable host channel sendThrows = false
  | .recoverStuckProcessing calledAt => calledAt = s.now
  | .openChannel mover => mover = host
  | .store _ => True
  | .deadLetter _ => True
  | .deliver _ _ => True
  | .receiveSettlement _ => True
  | .handlerSettles _ result => result = .ok
  | .handlerResumes _ sendThrows => sendThrows = false
  | .create _ _ _ _ => False
  | .query _ _ => False
  | .loseChannel _ => False
  | .noticeClose _ => False
  | .crash _ => False

/-- The channels of an instance's publisher and of its consumer; without the latter it takes no
deliveries. -/
structure Lines where
  host : InstanceId
  publisher : ChannelId
  consumer : Option ChannelId

namespace Lines

structure Open (lines : Lines) (s : State) : Prop where
  publisher : s.channels[lines.publisher]? = some ⟨lines.host, .opened⟩
  consumer : ∃ channel, lines.consumer = some channel ∧
    s.channels[channel]? = some ⟨lines.host, .opened⟩

/-- The step keeps to these channels and to the prefetch limit. -/
def Carries (lines : Lines) (s : State) : Action → Prop
  | .publisherResumes _ channel _ => channel = some lines.publisher
  | .deliver _ channel => lines.consumer = some channel ∧
      s.outstanding channel < OrderNotificationConsumer.SharedChannel.prefetch
  | .openChannel _ => False
  | _ => True

/-- The instance takes no deliveries for a while. -/
def paused (lines : Lines) : Lines := { lines with consumer := none }

end Lines

/-- Nothing fails, and the traffic of the instance goes over its own channels. -/
structure Serving (lines : Lines) (s : State) (a : Action) : Prop where
  unfailing : unfailing lines.host s a
  carried : lines.Carries s a

section Steps

variable {stock : Int → Option Nat} {host : InstanceId} {lines : Lines} {s s' : State} {a : Action}

/-- An action that is possible, as a step of the system. -/
theorem step_of_act {t : State} (acted : s.act a = some t) :
    (system stock).step s a = some { t with moment := s.moment + 1 } := by
  simp [system, State.step, acted]

/-- A continuation from a reachable state stays among the reachable states. -/
theorem reachable_after (reachable : (system stock).Reachable anyStep s)
    (steps : (system stock).Steps (Serving lines) s s') : (system stock).Reachable anyStep s' :=
  reachable.trans (steps.mono fun _ _ _ => trivial)

/-- Where an action leads to the goal. -/
theorem reaches_act {goal : State → Prop} {t : State} (permitted : Serving lines s a)
    (acted : s.act a = some t) (arrived : goal { t with moment := s.moment + 1 }) :
    (system stock).CanReach (Serving lines) goal s :=
  .step permitted (step_of_act acted) (.here arrived)

/-- First an action, then on from the state it leads to. -/
theorem act_then {goal : State → Prop} {t : State} (permitted : Serving lines s a)
    (acted : s.act a = some t)
    (rest : ∀ s', s' = { t with moment := s.moment + 1 } →
      (system stock).Steps (Serving lines) s s' → (system stock).CanReach (Serving lines) goal s') :
    (system stock).CanReach (Serving lines) goal s := by
  have taken : (system stock).step s a = _ := step_of_act acted
  exact .step permitted taken (rest _ rfl (.single ⟨a, permitted, taken⟩))

theorem unfailing_channels (permitted : unfailing host s a) (taken : s.step a = some s')
    {id : ChannelId} {channel : Channel} (found : s.channels[id]? = some channel) :
    s'.channels[id]? = some channel := by
  obtain ⟨t, acts, rfl⟩ := State.step_cases taken
  cases acts with
  | opened mover => exact Registry.added_of found
  | lost | closed | crashed => cases permitted
  | _ => exact found

theorem channels_after (steps : (system stock).Steps (Serving lines) s s') {id : ChannelId}
    {channel : Channel} (found : s.channels[id]? = some channel) :
    s'.channels[id]? = some channel :=
  steps.stable (P := fun later => later.channels[id]? = some channel)
    (fun _ _ _ before permitted taken => unfailing_channels permitted.unfailing taken before) found

theorem Lines.Open.stays (open_ : lines.Open s) (permitted : Serving lines s a)
    (taken : s.step a = some s') : lines.Open s' := by
  obtain ⟨channel, consumes, found⟩ := open_.consumer
  exact ⟨unfailing_channels permitted.unfailing taken open_.publisher, channel, consumes,
    unfailing_channels permitted.unfailing taken found⟩

theorem Lines.Open.after (open_ : lines.Open s)
    (steps : (system stock).Steps (Serving lines) s s') : lines.Open s' :=
  steps.stable (P := lines.Open)
    (fun _ _ _ before permitted taken => before.stays permitted taken) open_

/-- A pause is no failure. -/
theorem Serving.of_paused (permitted : Serving lines.paused s a) : Serving lines s a := by
  obtain ⟨unfailing, carried⟩ := permitted
  refine ⟨unfailing, ?_⟩
  cases a with
  | deliver copy channel => cases carried.1
  | _ => exact carried

/-- Nothing is sold, so the orders and the events stay the same ones. -/
theorem unfailing_sales (permitted : unfailing host s a) (taken : s.step a = some s') :
    s'.db.orders = s.db.orders ∧
      s'.db.outboxEvents.map identity = s.db.outboxEvents.map identity := by
  obtain ⟨t, acts, rfl⟩ := State.step_cases taken
  cases acts with
  | began | queried | crashed => cases permitted
  | publisherSettled mover result rows publisher settled =>
    exact ⟨rfl, OutboxPublisherService.settle_identity settled⟩
  | recovered => exact ⟨rfl, recoverStuckProcessing_identity _ _⟩
  | _ => exact ⟨rfl, rfl⟩

theorem orders_after (steps : (system stock).Steps (Serving lines) s s') :
    s'.db.orders = s.db.orders :=
  steps.unchanged (f := fun s => s.db.orders)
    fun _ _ _ permitted taken => (unfailing_sales permitted.unfailing taken).1

theorem identities_after (steps : (system stock).Steps (Serving lines) s s') :
    s'.db.outboxEvents.map identity = s.db.outboxEvents.map identity :=
  steps.unchanged (f := fun s => s.db.outboxEvents.map identity)
    fun _ _ _ permitted taken => (unfailing_sales permitted.unfailing taken).2

end Steps

end FlashSaleLab
