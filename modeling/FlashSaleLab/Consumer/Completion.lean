import FlashSaleLab.Broker.Copies
import FlashSaleLab.Consumer.RedisLog

/-!
# What an execution acks on

`handleMessage` acks a delivery at three kinds of places: after its own notification, when the
processed key is there, and when a copy of its message was confirmed. Each time the history or
the broker holds the reason.
-/
namespace FlashSaleLab

open OrderNotificationConsumer Transition

namespace HandlerPc

/-- Has completed its notification and not stored the processed key. -/
def toMark : HandlerPc → Bool
  | .notified (.resolved _) => true
  | .marking => true
  | _ => false

/-- Has stored the processed key, or tried to. -/
def afterMark : HandlerPc → Bool
  | .marked => true
  | .releasing => true
  | .released => true
  | .cleaningUp true => true
  | _ => false

end HandlerPc

/-- Somebody completed the notification of `orderId`. -/
def Notified (s : State) (orderId : Option Json) : Prop :=
  ∃ id time, .notified orderId id time ∈ s.history

/-- `copy` carries on with the message of `given`. -/
def Republished (s : State) (given copy : CopyId) : Prop :=
  ∃ before after, s.copies[given]? = some before ∧ s.copies[copy]? = some after ∧ given < copy ∧
    after.message.content = before.message.content

/-- What an execution knows by where it is. -/
structure AckInv (s : State) (id : HandlerId) (handler : Handler) : Prop where
  completed : handler.pc.toMark = true ∨ handler.pc.afterMark = true →
    ∃ time, .notified handler.orderId id time ∈ s.history
  duplicate : ∀ text, handler.pc = .checked (.resolved (some text)) → Notified s handler.orderId
  confirming : ∀ copy, handler.pc = .confirming copy → Republished s handler.copy copy
  confirmed : handler.pc = .confirmed (.resolved ()) →
    ∃ copy, Republished s handler.copy copy ∧ s.stored copy = true

def AcksInv (s : State) : Prop :=
  ∀ (id : HandlerId) (handler : Handler), s.handlers[id]? = some handler → AckInv s id handler

/-- Only notified orders are marked. -/
def MarkedInv (s : State) : Prop :=
  ∀ orderId id time, .processedStored orderId id time ∈ s.history → Notified s orderId

section Steps

variable {s s' : State} {a : Action}

theorem Notified.mono {orderId : Option Json} (notified : Notified s orderId)
    (taken : s.step a = some s') : Notified s' orderId := by
  obtain ⟨id, time, noted⟩ := notified
  exact ⟨id, time, (consumerStep taken).remembers _ noted⟩

theorem Republished.mono {given copy : CopyId} (republished : Republished s given copy)
    (taken : s.step a = some s') : Republished s' given copy := by
  obtain ⟨before, after, foundBefore, foundAfter, older, content⟩ := republished
  obtain ⟨_, stays⟩ := copies_stay taken foundBefore
  obtain ⟨_, staysToo⟩ := copies_stay taken foundAfter
  exact ⟨_, _, stays, staysToo, older, content⟩

/-- An execution that knows nothing yet, or nothing any more. -/
theorem AckInv.blank {id : HandlerId} {handler : Handler} (toMark : handler.pc.toMark = false)
    (afterMark : handler.pc.afterMark = false)
    (unread : ∀ text, handler.pc ≠ .checked (.resolved (some text)))
    (unpublished : ∀ copy, handler.pc ≠ .confirming copy)
    (unconfirmed : handler.pc ≠ .confirmed (.resolved ())) : AckInv s id handler where
  completed past := by simp [toMark, afterMark] at past
  duplicate text suspended := absurd suspended (unread text)
  confirming copy suspended := absurd suspended (unpublished copy)
  confirmed suspended := absurd suspended unconfirmed

theorem AckInv.mono {id : HandlerId} {handler : Handler} (inv : AckInv s id handler)
    (taken : s.step a = some s') : AckInv s' id handler where
  completed past := by
    obtain ⟨time, noted⟩ := inv.completed past
    exact ⟨time, (consumerStep taken).remembers _ noted⟩
  duplicate text suspended := (inv.duplicate text suspended).mono taken
  confirming copy suspended := (inv.confirming copy suspended).mono taken
  confirmed suspended := by
    obtain ⟨copy, republished, stored⟩ := inv.confirmed suspended
    exact ⟨copy, republished.mono taken, stored_stays taken stored⟩

theorem OrderNotificationConsumer.Continues.marks {message : Message} {fresh : CopyId}
    {ops : ChannelOps} {pc : HandlerPc} {segment : Segment}
    (moved : Continues message fresh ops pc segment) :
    segment.pc.toMark = pc.toMark ∧ (segment.pc.afterMark = true → pc.afterMark = true) := by
  cases moved with
  | republished pc queue message' site | sendFailed pc queue message' site =>
    cases site with
    | redisExhausted pc failed | redisRetry pc failed =>
      cases failed <;> simp [HandlerPc.toMark, HandlerPc.afterMark]
    | _ => simp [HandlerPc.toMark, HandlerPc.afterMark]
  | counterThrew pc reading =>
    cases reading with
    | redisFailed pc failed => cases failed <;> simp [HandlerPc.toMark, HandlerPc.afterMark]
    | _ => simp [HandlerPc.toMark, HandlerPc.afterMark]
  | _ => simp [HandlerPc.toMark, HandlerPc.afterMark]

/-- A segment that publishes leaves its copy behind the one it was given. -/
theorem republished_segment {id : HandlerId} {handler : Handler} {copy : Copy} {queue : Queue}
    {message : Message} {pc : HandlerPc} (held : s.copies[handler.copy]? = some copy)
    (content : message.content = copy.message.content)
    (copies : s'.copies = s.runSegment id handler ⟨some (queue, message), none, pc⟩) :
    Republished s' handler.copy s.copies.length := by
  refine ⟨copy, ⟨message, queue, handler.channel, some (id, handler.copy), s.now, .wire⟩, ?_, ?_,
    Registry.lt_of_found held, content⟩
  · rw [copies]
    exact Registry.added_of held
  · rw [copies]
    simp [State.runSegment, Copies.publish]

theorem AckInv.settled {id : HandlerId} {handler after : Handler} {result : CallResult}
    {events : List Event} (inv : AckInv s id handler) (marked : MarkedInv s) (redis : RedisInv s)
    (taken : s.step a = some s')
    (moved : Settles s.redis s.now id handler s.stored result s'.redis after events)
    (history : s'.history = events ++ s.history) : AckInv s' id after := by
  generalize s'.redis = store at moved
  cases moved with
  | checked suspended =>
    refine ⟨by simp [HandlerPc.toMark, HandlerPc.afterMark], ?_, by simp, by simp⟩
    intro text found
    simp only [HandlerPc.checked.injEq, Settled.resolved.injEq, Option.map_eq_some_iff] at found
    obtain ⟨value, read, _⟩ := found
    obtain ⟨entry, live, _⟩ := Option.map_eq_some_iff.mp read
    -- an entry under the processed key was written by an execution that had notified
    obtain ⟨_, time, noted, _⟩ := redis.marks _ entry (ExpiringStore.live_eq_some_iff.mp live).1
    exact (marked _ _ time noted).mono taken
  | notified suspended =>
    refine ⟨fun _ => ⟨s.now, ?_⟩, by simp, by simp, by simp⟩
    rw [history]
    exact List.mem_cons_self
  | markStored suspended | markLost suspended =>
    -- `set` resolves either way, so a lost mark does not stop the handler
    refine ⟨fun _ => ?_, by simp, by simp, by simp⟩
    have due : handler.pc.toMark = true := by rw [suspended]; rfl
    obtain ⟨time, noted⟩ := inv.completed (Or.inl due)
    exact ⟨time, (consumerStep taken).remembers _ noted⟩
  | deleted pc suspended | deleteLost pc suspended =>
    rcases afterDel_cases suspended with ⟨before, rfl⟩ | ⟨again, before, rfl⟩
    · refine ⟨fun _ => ?_, by simp, by simp, by simp⟩
      obtain ⟨time, noted⟩ := inv.completed (Or.inr (by rw [before]; rfl))
      exact ⟨time, (consumerStep taken).remembers _ noted⟩
    · exact .blank rfl rfl (by simp) (by simp) (by simp)
  | confirmed copy suspended present =>
    refine ⟨by simp [HandlerPc.toMark, HandlerPc.afterMark], by simp, by simp, fun _ => ?_⟩
    exact ⟨copy, (inv.confirming copy suspended).mono taken, stored_stays taken present⟩
  | _ => exact .blank rfl rfl (by simp) (by simp) (by simp)

theorem AckInv.resumed {id : HandlerId} {handler : Handler} {copy : Copy} {ops : ChannelOps}
    {segment : Segment} (inv : AckInv s id handler) (taken : s.step a = some s')
    (held : s.copies[handler.copy]? = some copy)
    (moved : Continues copy.message s.copies.length ops handler.pc segment)
    (copies : s'.copies = s.runSegment id handler segment) :
    AckInv s' id { handler with pc := segment.pc } := by
  obtain ⟨due, past⟩ := moved.marks
  constructor
  · intro before
    obtain ⟨time, noted⟩ := inv.completed (before.imp (due ▸ ·) past)
    exact ⟨time, (consumerStep taken).remembers _ noted⟩
  · -- a segment never stops at a settled await
    intro text suspended
    generalize handler.pc = pc at moved
    cases moved <;> cases suspended
  · intro fresh suspended
    generalize handler.pc = pc at moved
    cases moved with
    | republished pc queue message site =>
      cases suspended
      have behind : Republished s' handler.copy s.copies.length :=
        republished_segment held site.content copies
      exact behind
    | _ => cases suspended
  · intro suspended
    generalize handler.pc = pc at moved
    cases moved <;> cases suspended

theorem AckInv.crashed {id : HandlerId} {handler : Handler} :
    AckInv s' id { handler with pc := handler.pc.crash } := by
  have blank : handler.pc.crash = .returned ∨ handler.pc.crash = .rejected ∨
      handler.pc.crash = .crashed := by
    cases handler.pc <;> simp [HandlerPc.crash]
  apply AckInv.blank
  all_goals
    rcases blank with ended | ended | ended <;>
      simp [ended, HandlerPc.toMark, HandlerPc.afterMark]

theorem AcksInv.step (inv : AcksInv s) (marked : MarkedInv s) (redis : RedisInv s)
    (taken : s.step a = some s') : AcksInv s' := by
  intro id after found
  cases (consumerStep taken).handler found with
  | kept old => exact (inv id after old).mono taken
  | delivered copy since fresh held waiting start =>
    rcases start with ⟨checking, _⟩ | rejected
    · exact .blank (by rw [checking]; rfl) (by rw [checking]; rfl) (by simp [checking])
        (by simp [checking]) (by simp [checking])
    · exact .blank (by rw [rejected]; rfl) (by rw [rejected]; rfl) (by simp [rejected])
        (by simp [rejected]) (by simp [rejected])
  | settled handler result events action old moved history =>
    exact (inv id handler old).settled marked redis taken moved history
  | resumed handler sendThrows copy segment action old held moved copies same =>
    subst same
    exact (inv id handler old).resumed taken held moved copies
  | crashed handler old same =>
    subst same
    exact .crashed

/-- The execution that stores the processed key is past its notification. -/
theorem MarkedInv.step (inv : MarkedInv s) (acks : AcksInv s) (taken : s.step a = some s') :
    MarkedInv s' := by
  intro orderId writer time noted
  rcases (consumerStep taken).history_cases rfl noted with
    old | ⟨mover, handler, result, after, events, action, found, moved, present, new⟩
  · exact (inv orderId writer time old).mono taken
  · generalize s'.redis = store at moved
    cases moved with
    | markStored suspended =>
      cases List.mem_singleton.mp new
      have due : handler.pc.toMark = true := by rw [suspended]; rfl
      obtain ⟨since, completed⟩ := (acks writer handler found).completed (Or.inl due)
      exact ⟨writer, since, (consumerStep taken).remembers _ completed⟩
    | _ => simp at new

end Steps

theorem acks_initial (stock : Int → Option Nat) :
    AcksInv (.initial stock) ∧ MarkedInv (.initial stock) := by
  constructor
  · intro id handler found
    cases found
  · intro orderId id time noted
    cases noted

theorem acks_invariant {stock : Int → Option Nat} {allowed : State → Action → Prop} {s : State}
    (reachable : (system stock).Reachable allowed s) : AcksInv s ∧ MarkedInv s := by
  apply reachable.invariant (I := fun s => AcksInv s ∧ MarkedInv s)
  · rintro s rfl
    exact acks_initial stock
  · intro s a s' before ⟨acks, marked⟩ _ taken
    exact ⟨acks.step marked (redis_invariant before) taken, marked.step acks taken⟩

end FlashSaleLab
