import FlashSaleLab.Broker.Steps

/-!
# An event that is SENT was announced

`markAsSent` runs only after `publishOrderNotification` resolved, and that only after the broker
confirmed the message. So behind each SENT row stands a message of its order that was stored.
-/
namespace FlashSaleLab

open PrismaOutboxRepository OrderNotificationConsumer Transition

/-- The broker has stored a message of the order. -/
def Announced (s : State) (orderId : Rat) : Prop :=
  ∃ (id : CopyId) (copy : Copy), s.copies[id]? = some copy ∧ copy.place.stored = true ∧
    start copy.message.content = .ok (some (.number orderId))

/-- What a publisher at `pc` knows of the events in its hand. -/
structure HandInv (s : State) (pc : PublisherPc) : Prop where
  rows : ∀ event ∈ pc.events, ∃ row ∈ s.db.outboxEvents, toPending row = .ok event
  publishing : ∀ event rest id, pc = .publishing event rest id →
    ∃ copy : Copy, s.copies[id]? = some copy ∧
      start copy.message.content = .ok (some (.number event.payload.orderId))
  published : ∀ event rest, pc = .published event rest (.resolved ()) →
    Announced s event.payload.orderId
  marking : ∀ event rest sentAt, pc = .marking event rest sentAt →
    Announced s event.payload.orderId

structure AnnouncedInv (s : State) : Prop where
  hands : ∀ host, HandInv s (s.publishers host).pc
  sent : ∀ row ∈ s.db.outboxEvents, row.status = .sent →
    ∃ orderId, row.orderId? = some orderId ∧ Announced s orderId

/-- The body `publishOrderNotification` sends carries the event's order. -/
theorem start_message (orderId : Rat) (requestId : String) :
    start (RabbitMqService.message orderId requestId).content =
      .ok (some (.number orderId)) :=
  rfl

section Rows

variable {rows rows' : List OutboxEvent} {row old : OutboxEvent} {event : PendingOutboxEvent}

/-- The checks and the result of `toPending` depend on nothing a row can lose. -/
theorem toPending_of_identity (same : identity row = identity old) :
    toPending row = toPending old := by
  simp only [identity, Prod.mk.injEq] at same
  obtain ⟨id, type, payload⟩ := same
  unfold toPending
  rw [id, type, payload]

theorem orderId?_of_identity (same : identity row = identity old) :
    row.orderId? = old.orderId? := by
  simp only [identity, Prod.mk.injEq] at same
  unfold OutboxEvent.orderId?
  rw [same.2.2]

theorem orderId?_toPending (checked : toPending row = .ok event) :
    row.orderId? = some event.payload.orderId := by
  obtain ⟨_, _, orderId, _⟩ := toPending_ok checked
  unfold OutboxEvent.orderId?
  rw [orderId]

theorem row_stays (same : rows'.map identity = rows.map identity) (member : row ∈ rows) :
    ∃ row' ∈ rows', identity row' = identity row := by
  have listed : identity row ∈ rows'.map identity := same ▸ List.mem_map_of_mem member
  exact List.mem_map.mp listed

/-- A claim leaves no row SENT that was not. -/
theorem sent_of_claim {id : Nat} {startedAt : Time} (member : row ∈ (claim rows id startedAt).1)
    (sent : row.status = .sent) : row ∈ rows := by
  obtain ⟨old, present, rfl⟩ := mem_updateMany.mp member
  split at sent
  · cases sent
  next other =>
    rw [if_neg other]
    exact present

theorem sent_of_recover {calledAt : Time}
    (member : row ∈ (recoverStuckProcessing rows calledAt).1) (sent : row.status = .sent) :
    row ∈ rows := by
  obtain ⟨old, present, rfl⟩ := mem_updateMany.mp member
  split at sent
  · cases sent
  next other =>
    rw [if_neg other]
    exact present

/-- A row that is SENT after `markAsSent` was SENT before, or is the event's. -/
theorem sent_of_mark {id : Nat} {sentAt : Time} (marked : markAsSent rows id sentAt = some rows')
    (member : row ∈ rows') :
    row ∈ rows ∨ ∃ old ∈ rows, old.id = id ∧ identity row = identity old := by
  rw [markAsSent_eq_some marked] at member
  obtain ⟨old, present, rfl⟩ := mem_updateMany.mp member
  split
  next same => exact Or.inr ⟨old, present, by simpa using same, rfl⟩
  next => exact Or.inl present

end Rows

section Steps

variable {s s' : State} {a : Action}

theorem Announced.mono {orderId : Rat} (announced : Announced s orderId)
    (taken : s.step a = some s') : Announced s' orderId := by
  obtain ⟨id, copy, found, stored, names⟩ := announced
  obtain ⟨place, present, step⟩ := copy_placed taken found
  exact ⟨id, _, present, step.stays_stored stored, names⟩

/-- Rows keep their identity in every step. -/
theorem OutboxStep.row_stays (taken : OutboxStep s s') {row : OutboxEvent}
    (member : row ∈ s.db.outboxEvents) :
    ∃ row' ∈ s'.db.outboxEvents, identity row' = identity row := by
  cases taken with
  | idle rows | advanced _ _ _ rows | published _ _ _ _ _ _ _ rows =>
    rw [rows]
    exact ⟨row, member, rfl⟩
  | inserted input id rows =>
    rw [rows]
    exact ⟨row, List.mem_append_left _ member, rfl⟩
  | recovered calledAt past rows =>
    rw [rows]
    exact FlashSaleLab.row_stays (recoverStuckProcessing_identity _ _) member
  | settled host publisher events moved =>
    generalize s'.db.outboxEvents = rows at moved
    generalize publisher.pc = pc at moved
    cases moved with
    | claimed event rest startedAt | claimLost event rest startedAt =>
      exact FlashSaleLab.row_stays (claim_identity _ _ _) member
    | marked event rest sentAt _ reply suspended updated =>
      exact FlashSaleLab.row_stays (markAsSent_identity updated) member
    | _ => exact ⟨row, member, rfl⟩

/-- A publisher between two cycles. -/
theorem HandInv.empty {pc : PublisherPc} (nothing : pc = .idle ∨ pc = .finding) :
    HandInv s pc := by
  rcases nothing with rfl | rfl
  · exact ⟨by simp [PublisherPc.events], by simp, by simp, by simp⟩
  · exact ⟨by simp [PublisherPc.events], by simp, by simp, by simp⟩

/-- The events in hand carry over, and the copy of the one in flight. -/
theorem HandInv.rows_mono {pc : PublisherPc} (inv : HandInv s pc) (outbox : OutboxStep s s') :
    ∀ event ∈ pc.events, ∃ row ∈ s'.db.outboxEvents, toPending row = .ok event := by
  intro event member
  obtain ⟨row, present, checked⟩ := inv.rows event member
  obtain ⟨row', stays, same⟩ := outbox.row_stays present
  exact ⟨row', stays, (toPending_of_identity same).trans checked⟩

theorem HandInv.mono {pc : PublisherPc} (inv : HandInv s pc) (outbox : OutboxStep s s')
    (taken : s.step a = some s') : HandInv s' pc where
  rows := inv.rows_mono outbox
  publishing event rest id suspended := by
    obtain ⟨copy, found, names⟩ := inv.publishing event rest id suspended
    obtain ⟨place, present⟩ := copies_stay taken found
    exact ⟨_, present, names⟩
  published event rest suspended := (inv.published event rest suspended).mono taken
  marking event rest sentAt suspended := (inv.marking event rest sentAt suspended).mono taken

/-- A publisher that knows of no message for the event it is at. -/
theorem HandInv.held {pc pc' : PublisherPc} (inv : HandInv s pc) (outbox : OutboxStep s s')
    (inHand : ∀ event ∈ pc'.events, event ∈ pc.events)
    (unsent : ∀ event rest id, pc' ≠ .publishing event rest id)
    (unpublished : ∀ event rest, pc' ≠ .published event rest (.resolved ()))
    (unmarked : ∀ event rest sentAt, pc' ≠ .marking event rest sentAt) : HandInv s' pc' where
  rows event member := inv.rows_mono outbox event (inHand event member)
  publishing event rest id suspended := absurd suspended (unsent event rest id)
  published event rest suspended := absurd suspended (unpublished event rest)
  marking event rest sentAt suspended := absurd suspended (unmarked event rest sentAt)

theorem HandInv.settled {publisher : Publisher} {rows : List OutboxEvent} {events : List Event}
    {pc : PublisherPc} (inv : HandInv s publisher.pc) (outbox : OutboxStep s s')
    (taken : s.step a = some s')
    (moved : OutboxPublisherService.Settles s.db.outboxEvents s.now publisher s.stored rows events
      pc) : HandInv s' pc := by
  cases moved with
  | found pending suspended listed =>
    refine ⟨fun event member => ?_, by simp, by simp, by simp⟩
    obtain ⟨row, present, _, checked⟩ := mem_findPending listed member
    obtain ⟨row', stays, same⟩ := outbox.row_stays present
    exact ⟨row', stays, (toPending_of_identity same).trans checked⟩
  | findFailed suspended =>
    exact inv.held outbox (by simp [PublisherPc.events]) (by simp) (by simp) (by simp)
  | claimed event rest startedAt suspended | claimLost event rest startedAt suspended
  | claimMissed event rest startedAt reply suspended
  | unconfirmed event rest copy suspended =>
    exact inv.held outbox (by simp [suspended, PublisherPc.events]) (by simp) (by simp) (by simp)
  | marked event rest sentAt rows reply suspended | markFailed event rest sentAt suspended =>
    exact inv.held outbox (by simp +contextual [suspended, PublisherPc.events]) (by simp) (by simp)
      (by simp)
  | confirmed event rest copy suspended present =>
    -- the broker has stored the message this publisher sent
    obtain ⟨message, found, names⟩ := inv.publishing event rest copy suspended
    obtain ⟨_, same, stored⟩ := stored_iff.mp present
    cases found.symm.trans same
    have announced : Announced s event.payload.orderId := ⟨copy, message, found, stored, names⟩
    constructor
    · intro other member
      exact inv.rows_mono outbox other (by simpa [suspended, PublisherPc.events] using member)
    · simp
    · intro other tail same
      cases same
      exact announced.mono taken
    · simp

theorem HandInv.resumed {publisher : Publisher} {pc : PublisherPc}
    (inv : HandInv s publisher.pc) (outbox : OutboxStep s s') (taken : s.step a = some s')
    (moved : OutboxPublisherService.Resumes s.now publisher s.copies.length none pc) :
    HandInv s' pc := by
  cases moved with
  | stopped => exact .empty (Or.inl rfl)
  | advanced event rest inHand => exact inv.held outbox inHand (by simp) (by simp) (by simp)
  | confirmed event rest suspended =>
    constructor
    · intro other member
      exact inv.rows_mono outbox other (by simpa [suspended, PublisherPc.events] using member)
    · simp
    · simp
    · intro other tail sentAt same
      cases same
      exact (inv.published _ _ suspended).mono taken

theorem AnnouncedInv.hands_step (inv : AnnouncedInv s) (outbox : OutboxStep s s')
    (taken : s.step a = some s') (host : InstanceId) : HandInv s' (s'.publishers host).pc := by
  have before := inv.hands host
  cases outbox.publisher host with
  | kept same =>
    rw [same]
    exact before.mono outbox taken
  | reset nothing => exact .empty nothing
  | settled events moved => exact before.settled outbox taken moved
  | advanced moved => exact before.resumed outbox taken moved
  | published event rest channel suspended moved copies =>
    rw [moved]
    constructor
    · intro other member
      exact before.rows_mono outbox other
        (by simpa [suspended, PublisherPc.events] using member)
    · -- the copy on the wire carries the order of the event in hand
      intro other tail id same
      cases same
      have present : s'.copies[s.copies.length]? =
          some ⟨RabbitMqService.message event.payload.orderId event.payload.requestId,
            .notification, channel, none, s.now, .wire⟩ := by
        rw [copies, Copies.publish, List.getElem?_concat_length]
      exact ⟨_, present, start_message _ _⟩
    · simp
    · simp

theorem AnnouncedInv.step (inv : AnnouncedInv s) (nodup : (s.db.outboxEvents.map (·.id)).Nodup)
    (outbox : OutboxStep s s') (taken : s.step a = some s') : AnnouncedInv s' := by
  refine ⟨inv.hands_step outbox taken, fun row member sent => ?_⟩
  have before (old : row ∈ s.db.outboxEvents) :
      ∃ orderId, row.orderId? = some orderId ∧ Announced s' orderId := by
    obtain ⟨orderId, carries, announced⟩ := inv.sent row old sent
    exact ⟨orderId, carries, announced.mono taken⟩
  cases outbox with
  | idle rows | advanced _ _ _ rows | published _ _ _ _ _ _ _ rows => exact before (rows ▸ member)
  | inserted input id rows =>
    rw [rows] at member
    rcases List.mem_append.mp member with old | new
    · exact before old
    · -- a new row is PENDING
      cases List.mem_singleton.mp new
      cases sent
  | recovered calledAt past rows => exact before (sent_of_recover (rows ▸ member) sent)
  | settled host publisher events moved =>
    generalize s'.db.outboxEvents = rows at moved member
    generalize publisher.pc = pc at moved
    cases moved with
    | claimed event rest startedAt | claimLost event rest startedAt =>
      exact before (sent_of_claim member sent)
    | marked event rest sentAt _ reply suspended updated =>
      rcases sent_of_mark updated member with old | ⟨old, present, sameId, same⟩
      · exact before old
      · -- the publisher fetched this very row, so it announced the row's order
        obtain ⟨fetched, listed, checked⟩ := (inv.hands host).rows event
          (by simp [suspended, PublisherPc.events])
        have ids : fetched.id = old.id := (toPending_ok checked).1.symm.trans sameId.symm
        cases List.inj_on_of_nodup_map nodup listed present ids
        refine ⟨event.payload.orderId, ?_, ?_⟩
        · rw [orderId?_of_identity same]
          exact orderId?_toPending checked
        · exact ((inv.hands host).marking event rest sentAt suspended).mono taken
    | _ => exact before member

end Steps

theorem announced_invariant {stock : Int → Option Nat} {allowed : State → Action → Prop}
    {s : State} (reachable : (system stock).Reachable allowed s) : AnnouncedInv s := by
  apply reachable.invariant (I := AnnouncedInv)
  · rintro s rfl
    constructor
    · exact fun host => .empty (Or.inl rfl)
    · intro row member
      cases member
  · intro s a s' before inv _ taken
    obtain ⟨calls, ledger⟩ := sales_invariant before
    exact inv.step ledger.eventIds.nodup (outboxStep calls ledger taken) taken

end FlashSaleLab
