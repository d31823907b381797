import FlashSaleLab.Outbox.Rows
import FlashSaleLab.Sales.Stock

/-!
# What a step does to the outbox

The outbox side is the event rows, the publishers and the part of the history that is about
events. `Settles` and `Resumes` list what one publisher can do, `OutboxStep` what a step of
the system can.
-/
namespace FlashSaleLab

open PrismaOutboxRepository

/-- The events a publisher still has in hand. -/
def PublisherPc.events : PublisherPc → List PendingOutboxEvent
  | .found (.resolved events) => events
  | .claiming event rest _ => event :: rest
  | .claimed event rest _ => event :: rest
  | .publishing event rest _ => event :: rest
  | .published event rest _ => event :: rest
  | .marking event rest _ => event :: rest
  | .marked rest _ => rest
  | _ => []

namespace OutboxPublisherService

section Publisher

variable (rows : List OutboxEvent) (now : Time) (publisher : Publisher)

/-- What the end of a publisher's awaited call does: to the rows, to the history, to the
publisher. -/
inductive Settles (stored : CopyId → Bool) : List OutboxEvent → List Event → PublisherPc → Prop
  | found (pending : List PendingOutboxEvent) (suspended : publisher.pc = .finding)
      (listed : findPending rows batchSize = .ok pending) :
      Settles stored rows [] (.found (.resolved pending))
  | findFailed (suspended : publisher.pc = .finding) : Settles stored rows [] (.found .rejected)
  | claimed (event : PendingOutboxEvent) (rest : List PendingOutboxEvent) (startedAt : Time)
      (suspended : publisher.pc = .claiming event rest startedAt)
      (won : (claim rows event.id startedAt).2 = true) :
      Settles stored (claim rows event.id startedAt).1 [.claimed event.id startedAt]
        (.claimed event rest (.resolved true))
  | claimLost (event : PendingOutboxEvent) (rest : List PendingOutboxEvent) (startedAt : Time)
      (suspended : publisher.pc = .claiming event rest startedAt)
      (won : (claim rows event.id startedAt).2 = true) :
      Settles stored (claim rows event.id startedAt).1 [.claimLost event.id startedAt]
        (.claimed event rest .rejected)
  | claimMissed (event : PendingOutboxEvent) (rest : List PendingOutboxEvent) (startedAt : Time)
      (reply : Settled Bool) (suspended : publisher.pc = .claiming event rest startedAt)
      (missed : reply ≠ .resolved true) : Settles stored rows [] (.claimed event rest reply)
  | confirmed (event : PendingOutboxEvent) (rest : List PendingOutboxEvent) (copy : CopyId)
      (suspended : publisher.pc = .publishing event rest copy) (present : stored copy = true) :
      Settles stored rows [] (.published event rest (.resolved ()))
  | unconfirmed (event : PendingOutboxEvent) (rest : List PendingOutboxEvent) (copy : CopyId)
      (suspended : publisher.pc = .publishing event rest copy) :
      Settles stored rows [] (.published event rest .rejected)
  | marked (event : PendingOutboxEvent) (rest : List PendingOutboxEvent) (sentAt : Time)
      (rows' : List OutboxEvent) (reply : Settled Unit)
      (suspended : publisher.pc = .marking event rest sentAt)
      (updated : markAsSent rows event.id sentAt = some rows') :
      Settles stored rows' [.markedSent event.id now] (.marked rest reply)
  | markFailed (event : PendingOutboxEvent) (rest : List PendingOutboxEvent) (sentAt : Time)
      (suspended : publisher.pc = .marking event rest sentAt) :
      Settles stored rows [] (.marked rest .rejected)

/-- What a publisher's next segment does: what it publishes and the await it stops at. -/
inductive Resumes (fresh : CopyId) : Option Message → PublisherPc → Prop
  | stopped : Resumes fresh none .idle
  | advanced (event : PendingOutboxEvent) (rest : List PendingOutboxEvent)
      (inHand : ∀ other ∈ event :: rest, other ∈ publisher.pc.events) :
      Resumes fresh none (.claiming event rest now)
  | published (event : PendingOutboxEvent) (rest : List PendingOutboxEvent)
      (suspended : publisher.pc = .claimed event rest (.resolved true)) :
      Resumes fresh (some (RabbitMqService.message event.payload.orderId event.payload.requestId))
        (.publishing event rest fresh)
  | confirmed (event : PendingOutboxEvent) (rest : List PendingOutboxEvent)
      (suspended : publisher.pc = .published event rest (.resolved ())) :
      Resumes fresh none (.marking event rest now)

end Publisher

variable {rows rows' : List OutboxEvent} {now : Time} {publisher publisher' : Publisher}

theorem next_resumes {fresh : CopyId} {events : List PendingOutboxEvent}
    (inHand : ∀ event ∈ events, event ∈ publisher.pc.events) :
    Resumes now publisher fresh none (next publisher now events).pc := by
  cases events with
  | nil => exact .stopped
  | cons event rest => exact .advanced event rest inHand

theorem resume_cases {unavailable : Bool} {fresh : CopyId} {segment : PublisherSegment}
    (resumed : resume publisher now unavailable fresh = some segment) :
    Resumes now publisher fresh segment.sent segment.publisher.pc := by
  unfold resume at resumed
  split at resumed
  next events suspended =>
    cases resumed
    exact next_resumes (by simp [suspended, PublisherPc.events])
  · cases resumed; exact .stopped
  next event rest claimed suspended =>
    have inHand : ∀ other ∈ rest, other ∈ publisher.pc.events := by
      simp +contextual [suspended, PublisherPc.events]
    -- not claimed, another type, no channel, and then the publication
    split at resumed
    · cases resumed; exact next_resumes inHand
    next won =>
      split at resumed
      · cases resumed; exact next_resumes inHand
      · split at resumed
        · cases resumed; exact .stopped
        · cases resumed
          have claimedTrue : claimed = true := by simpa using won
          exact .published event rest (claimedTrue ▸ suspended)
  · cases resumed; exact .stopped
  next event rest reply suspended =>
    cases resumed
    exact .confirmed event rest suspended
  · cases resumed; exact .stopped
  next rest reply suspended =>
    cases resumed
    exact next_resumes (by simp [suspended, PublisherPc.events])
  · cases resumed; exact .stopped
  · cases resumed

theorem settle_cases {stored : CopyId → Bool} {result : CallResult}
    (nodup : (rows.map (·.id)).Nodup)
    (settled : settle rows publisher stored result = some (rows', publisher')) :
    Settles rows now publisher stored rows' (publisherEvents rows now publisher result)
      publisher'.pc := by
  unfold settle at settled
  split at settled
  next suspended =>
    cases settled
    simp only [publisherEvents, suspended]
    cases listed : findPending rows batchSize with
    | error text => exact .findFailed suspended
    | ok pending =>
      cases result with
      | ok => exact .found pending suspended listed
      | failed applied => exact .findFailed suspended
  next event rest startedAt suspended =>
    cases settled
    simp only [publisherEvents, suspended]
    -- whether the claim won, and whether the publisher hears of it
    cases won : (claim rows event.id startedAt).2 with
    | true =>
      cases result with
      | ok => exact .claimed event rest startedAt suspended won
      | failed applied =>
        cases applied with
        | true => exact .claimLost event rest startedAt suspended won
        | false => exact .claimMissed event rest startedAt .rejected suspended (by simp)
    | false =>
      -- executed or not, a claim that did not win leaves the rows as they are
      rw [claim_missed nodup won, ite_self, if_neg (by simp)]
      cases result with
      | ok => exact .claimMissed event rest startedAt (.resolved false) suspended (by simp)
      | failed applied => exact .claimMissed event rest startedAt .rejected suspended (by simp)
  next event rest copy suspended =>
    cases result with
    | ok =>
      simp only at settled
      split at settled
      next present =>
        cases settled
        simp only [publisherEvents, suspended]
        exact .confirmed event rest copy suspended present
      · cases settled
    | failed applied =>
      cases settled
      simp only [publisherEvents, suspended]
      exact .unconfirmed event rest copy suspended
  next event rest sentAt suspended =>
    split at settled
    next update updated =>
      cases settled
      simp only [publisherEvents, suspended, updated, Option.isSome_some, true_and]
      cases applied : result.applied with
      | true => exact .marked event rest sentAt update _ suspended updated
      | false =>
        cases result with
        | ok => cases applied
        | failed lost => exact .markFailed event rest sentAt suspended
    next absent =>
      cases settled
      simp only [publisherEvents, suspended, absent, Option.isSome_none, Bool.false_eq_true,
        false_and, if_false]
      exact .markFailed event rest sentAt suspended
  · cases settled

end OutboxPublisherService

/-- Everything a step of the system can do to the outbox. -/
inductive OutboxStep (s s' : State) : Prop
  | idle (rows : s'.db.outboxEvents = s.db.outboxEvents)
      (publishers : ∀ host, s'.publishers host = s.publishers host ∨
        (s'.publishers host).pc = .idle ∨ (s'.publishers host).pc = .finding)
      (events : List Event) (foreign : ∀ event ∈ events, event.outboxId? = none)
      (history : s'.history = events ++ s.history)
  | inserted (input : CreateOutboxEventInput) (id : Nat)
      (rows : s'.db.outboxEvents = s.db.outboxEvents ++ [create input id])
      (publishers : s'.publishers = s.publishers) (history : s'.history = s.history)
  | recovered (calledAt : Time) (past : calledAt ≤ s.now)
      (rows : s'.db.outboxEvents = (recoverStuckProcessing s.db.outboxEvents calledAt).1)
      (publishers : s'.publishers = s.publishers)
      (history : s'.history = (s.db.outboxEvents.filter (stuck calledAt)).map
        (fun event => .recovered event.id) ++ s.history)
  | settled (host : InstanceId) (publisher : Publisher) (events : List Event)
      (moved : OutboxPublisherService.Settles s.db.outboxEvents s.now (s.publishers host) s.stored
        s'.db.outboxEvents events publisher.pc)
      (publishers : s'.publishers = Function.update s.publishers host publisher)
      (history : s'.history = events ++ s.history) (copies : s'.copies = s.copies)
  | advanced (host : InstanceId) (publisher : Publisher)
      (moved : OutboxPublisherService.Resumes s.now (s.publishers host) s.copies.length none
        publisher.pc)
      (rows : s'.db.outboxEvents = s.db.outboxEvents)
      (publishers : s'.publishers = Function.update s.publishers host publisher)
      (history : s'.history = s.history) (copies : s'.copies = s.copies)
  | published (host : InstanceId) (publisher : Publisher) (event : PendingOutboxEvent)
      (rest : List PendingOutboxEvent) (channel : ChannelId)
      (suspended : (s.publishers host).pc = .claimed event rest (.resolved true))
      (moved : publisher.pc = .publishing event rest s.copies.length)
      (rows : s'.db.outboxEvents = s.db.outboxEvents)
      (publishers : s'.publishers = Function.update s.publishers host publisher)
      (history : s'.history = .published event.id :: s.history)
      (copies : s'.copies = s.copies.publish
        (RabbitMqService.message event.payload.orderId event.payload.requestId) .notification
        channel none s.now)

/-- A step that touches neither the rows nor the publishers and notes nothing down. -/
theorem OutboxStep.untouched {s s' : State} (rows : s'.db.outboxEvents = s.db.outboxEvents)
    (publishers : s'.publishers = s.publishers) (history : s'.history = s.history) :
    OutboxStep s s' :=
  .idle rows (fun host => Or.inl (congrFun publishers host)) [] (by simp) history

/-- What a step did to the publisher of one instance. -/
inductive PublisherStep (s s' : State) (host : InstanceId) : Prop
  | kept (same : s'.publishers host = s.publishers host)
  | reset (nothing : (s'.publishers host).pc = .idle ∨ (s'.publishers host).pc = .finding)
  | settled (events : List Event)
      (moved : OutboxPublisherService.Settles s.db.outboxEvents s.now (s.publishers host) s.stored
        s'.db.outboxEvents events (s'.publishers host).pc)
  | advanced
      (moved : OutboxPublisherService.Resumes s.now (s.publishers host) s.copies.length none
        (s'.publishers host).pc)
  | published (event : PendingOutboxEvent) (rest : List PendingOutboxEvent) (channel : ChannelId)
      (suspended : (s.publishers host).pc = .claimed event rest (.resolved true))
      (moved : (s'.publishers host).pc = .publishing event rest s.copies.length)
      (copies : s'.copies = s.copies.publish
        (RabbitMqService.message event.payload.orderId event.payload.requestId) .notification
        channel none s.now)

theorem OutboxStep.publisher {s s' : State} (taken : OutboxStep s s') (host : InstanceId) :
    PublisherStep s s' host := by
  cases taken with
  | idle rows publishers =>
    rcases publishers host with same | nothing
    · exact .kept same
    · exact .reset nothing
  | inserted input id rows publishers => exact .kept (congrFun publishers host)
  | recovered calledAt past rows publishers => exact .kept (congrFun publishers host)
  | settled mover publisher events moved publishers =>
    by_cases same : host = mover
    · subst same
      exact .settled events (by rw [publishers, Function.update_self]; exact moved)
    · exact .kept (by rw [publishers, Function.update_of_ne same])
  | advanced mover publisher moved rows publishers =>
    by_cases same : host = mover
    · subst same
      exact .advanced (by rw [publishers, Function.update_self]; exact moved)
    · exact .kept (by rw [publishers, Function.update_of_ne same])
  | published mover publisher event rest channel suspended moved rows publishers history copies =>
    by_cases same : host = mover
    · subst same
      refine .published event rest channel suspended ?_ copies
      rw [publishers, Function.update_self]
      exact moved
    · exact .kept (by rw [publishers, Function.update_of_ne same])

theorem handlerEvents_foreign {redis : Redis} {now : Time} {id : HandlerId} {handler : Handler}
    {result : CallResult} :
    ∀ event ∈ handlerEvents redis now id handler result, event.outboxId? = none := by
  intro event member
  unfold handlerEvents at member
  split at member
  · split at member <;> simp_all [Event.outboxId?]
  · split at member <;> simp_all [Event.outboxId?]
  · split at member <;> simp_all [Event.outboxId?]
  · cases member

/-- The outbox side of a call's statement: only a commit adds a row. -/
theorem OrderService.CreateStep.outboxEvents {db db' : Database} {id : CallId} {call : CreateCall}
    {moment : Nat} {pc : CreatePc} (inv : CallInv db id call)
    (step : OrderService.CreateStep db id call moment db' pc) :
    db'.outboxEvents = db.outboxEvents ∨
      ∃ input n, db'.outboxEvents = db.outboxEvents ++ [PrismaOutboxRepository.create input n] := by
  cases step with
  | committed order event stock suspended =>
    obtain ⟨n, rfl⟩ := inv.event order event (by simp [suspended, CreatePc.order?])
      (by simp [suspended, CreatePc.event?])
    exact Or.inr ⟨_, n, rfl⟩
  | _ => exact Or.inl rfl

theorem outboxStep {stock : Int → Option Nat} {s s' : State} {a : Action} (calls : CallsInv s)
    (ledger : LedgerInv stock s) (taken : s.step a = some s') : OutboxStep s s' := by
  obtain ⟨t, acts, rfl⟩ := State.step_cases taken
  cases acts with
  | queried id ok call db pc found executed =>
    rcases executed.outboxEvents (calls id call found) with same | ⟨input, n, added⟩
    · exact .untouched same rfl rfl
    · exact .inserted input n added rfl rfl
  | crashed host =>
    refine .idle rfl (fun other => ?_) [] (by simp) rfl
    by_cases same : other = host
    · subst same
      right; left
      simp [State.crash, OutboxPublisherService.initial]
    · left
      simp [State.crash, same]
  | started host publisher finding =>
    refine .idle rfl (fun other => ?_) [] (by simp) rfl
    by_cases same : other = host
    · subst same
      right; right
      simpa using finding
    · left
      simp [same]
  | publisherSettled host result rows publisher settled =>
    exact .settled host publisher _
      (OutboxPublisherService.settle_cases ledger.eventIds.nodup settled) rfl rfl rfl
  | publisherAdvanced host channel sendThrows segment resumed silent =>
    exact .advanced host segment.publisher
      (silent ▸ OutboxPublisherService.resume_cases resumed) rfl rfl rfl rfl
  | published host channel sendThrows segment message resumed sent =>
    have moved := OutboxPublisherService.resume_cases resumed
    rw [sent] at moved
    generalize paused : segment.publisher.pc = pc at moved
    cases moved with
    | published event rest suspended =>
      exact .published host segment.publisher event rest channel suspended paused rfl rfl
        (by simp [PublisherPc.published?]) rfl
  | recovered calledAt past => exact .recovered calledAt past rfl rfl rfl
  | handlerSettled =>
    exact .idle rfl (fun _ => Or.inl rfl) _ handlerEvents_foreign rfl
  | _ => exact .untouched rfl rfl rfl

end FlashSaleLab
