import FlashSaleLab.Consumer.Completion
import FlashSaleLab.Outbox.Announcements

/-!
# No order is lost

An order's notification passes from the outbox row to a message, and from a message to the
copies published for it. Whoever gives it up has handed it on: the publisher marks a row SENT
after its message was stored, and an execution acks after its notification, after somebody
else's, or after a copy of its message was stored.
-/
namespace FlashSaleLab

open OrderNotificationConsumer Transition

/-- The broker has the message and was not told to drop it. -/
def Place.safe : Place → Bool
  | .ready _ _ => true
  | .unacked _ _ settlement => settlement ≠ some .ack
  | _ => false

/-- A copy not older than `id` is safe and carries the same bytes. -/
def Kept (s : State) (id : CopyId) (content : Content) : Prop :=
  ∃ (later : CopyId) (copy : Copy), id ≤ later ∧ s.copies[later]? = some copy ∧
    copy.message.content = content ∧ copy.place.safe = true

/-- The order of a stored message has been notified, or a message for it is safe. -/
def KeptInv (s : State) : Prop :=
  ∀ (id : CopyId) (copy : Copy) (orderId : Option Json), s.copies[id]? = some copy →
    copy.place.stored = true → start copy.message.content = .ok orderId →
    Notified s orderId ∨ Kept s id copy.message.content

/-- Execution `mover` acks its delivery of copy `id`. -/
structure AckStep (s : State) (a : Action) (id : CopyId) (mover : HandlerId) (handler : Handler) :
    Prop where
  action : ∃ sendThrows, a = .handlerResumes mover sendThrows
  found : s.handlers[mover]? = some handler
  own : handler.copy = id
  moved : ∃ message ops segment, Continues message s.copies.length ops handler.pc segment ∧
    segment.settled = some .ack

section Steps

variable {s s' : State} {a : Action} {id : CopyId}

/-- A safe copy stays safe unless it is acked. -/
theorem PlaceStep.stays_safe {queue : Queue} {place place' : Place}
    (step : PlaceStep s a id queue place place') (safe : place.safe = true) :
    place'.safe = true ∨ ∃ mover handler, AckStep s a id mover handler := by
  cases step with
  | kept => exact Or.inl safe
  | acked handler channel settled =>
    rw [settled] at safe
    cases safe
  | settled mover handler sendThrows message ops segment settlement action found own moved
      settles =>
    cases settlement with
    | nackRequeue => exact Or.inl rfl
    | ack =>
      exact Or.inr ⟨mover, handler, ⟨sendThrows, action⟩, found, own, message, ops, segment, moved,
        settles⟩
  | stored | deadLettered | delivered | returned => exact Or.inl rfl

/-- A step acks one copy at most. -/
theorem AckStep.unique {other : CopyId} {mover mover' : HandlerId} {handler handler' : Handler}
    (step : AckStep s a id mover handler) (step' : AckStep s a other mover' handler') :
    id = other := by
  obtain ⟨_, rfl⟩ := step.action
  obtain ⟨_, same⟩ := step'.action
  cases same
  cases step.found.symm.trans step'.found
  exact step.own.symm.trans step'.own

/-- Why an execution acks: its order has been notified, or a stored copy carries on. -/
theorem AckStep.reason {mover : HandlerId} {handler : Handler} (acks : AcksInv s)
    (step : AckStep s a id mover handler) : Notified s handler.orderId ∨
      ∃ copy, Republished s id copy ∧ s.stored copy = true := by
  have known := acks mover handler step.found
  have own := step.own
  obtain ⟨message, ops, segment, moved, settles⟩ := step.moved
  generalize suspended : handler.pc = pc at moved
  -- the three kinds of segments that ack
  cases moved with
  | duplicate text => exact Or.inl (known.duplicate text suspended)
  | completed =>
    obtain ⟨time, noted⟩ := known.completed (Or.inr (by rw [suspended]; rfl))
    exact Or.inl ⟨mover, time, noted⟩
  | confirmed => exact Or.inr (own ▸ known.confirmed suspended)
  | sendFailed pc queue message' site settled unacked => exact absurd settles unacked
  | unconfirmed reply settled unacked => exact absurd settles unacked
  | _ => cases settles

theorem Kept.step_of_unacked {content : Content} (kept : Kept s id content)
    (taken : s.step a = some s')
    (unacked : ∀ later mover handler, id ≤ later → ¬AckStep s a later mover handler) :
    Kept s' id content := by
  obtain ⟨later, copy, after, found, same, safe⟩ := kept
  obtain ⟨place, present, step⟩ := copy_placed taken found
  rcases step.stays_safe safe with still | ⟨mover, handler, acked⟩
  · exact ⟨later, _, after, present, same, still⟩
  · exact absurd acked (unacked later mover handler after)

/-- The ack of the safe copy itself: its execution handed the notification on. -/
theorem KeptInv.acked (inv : KeptInv s) (acks : AcksInv s) (handlers : HandlersInv s)
    (taken : s.step a = some s') {later : CopyId} {copy : Copy} {orderId : Option Json}
    {mover : HandlerId} {handler : Handler} (found : s.copies[later]? = some copy)
    (names : start copy.message.content = .ok orderId) (le : id ≤ later)
    (step : AckStep s a later mover handler) :
    Notified s' orderId ∨ Kept s' id copy.message.content := by
  rcases step.reason acks with notified | ⟨next, republished, stored⟩
  · left
    obtain ⟨given, held, _, reads⟩ := (handlers mover handler step.found).given
    rw [step.own] at held
    cases found.symm.trans held
    obtain ⟨_, _, _, moved, _⟩ := step.moved
    -- the execution read its order from this very copy
    have order : orderId = handler.orderId := by
      simpa using names.symm.trans (reads moved.not_rejected)
    rw [order]
    exact notified.mono taken
  · obtain ⟨before, after, foundBefore, foundAfter, younger, content⟩ := republished
    cases found.symm.trans foundBefore
    obtain ⟨_, same, here⟩ := stored_iff.mp stored
    cases foundAfter.symm.trans same
    rcases inv next after orderId foundAfter here (content ▸ names) with notified | kept
    · exact Or.inl (notified.mono taken)
    · right
      -- what is kept from here on is younger than the acked copy
      have still : Kept s' next after.message.content := by
        refine kept.step_of_unacked taken fun other mover' handler' from_ acked => ?_
        have same : later = other := step.unique acked
        exact absurd (same ▸ younger) (Nat.not_lt.mpr from_)
      rw [content] at still
      obtain ⟨last, copy', after', rest⟩ := still
      exact ⟨last, copy', le.trans (younger.le.trans after'), rest⟩

theorem KeptInv.step (inv : KeptInv s) (acks : AcksInv s) (handlers : HandlersInv s)
    (taken : s.step a = some s') : KeptInv s' := by
  intro id after orderId found stored names
  cases copyStep taken found with
  | published host event rest channel fresh suspended made =>
    rw [made] at stored
    cases stored
  | republished mover handler parent queue message fresh present held site made =>
    rw [made] at stored
    cases stored
  | moved before old placed same =>
    have message : after.message = before.message := by rw [same]
    rw [message] at names ⊢
    by_cases early : before.place.stored = true
    · rcases inv id before orderId old early names with notified | kept
      · exact Or.inl (notified.mono taken)
      · -- the safe copy is still safe, or it is the one being acked
        obtain ⟨later, copy, le, foundLater, content, safe⟩ := kept
        obtain ⟨place, present, step⟩ := copy_placed taken foundLater
        rcases step.stays_safe safe with still | ⟨mover, handler, acked⟩
        · exact Or.inr ⟨later, _, le, present, content, still⟩
        · rw [← content] at names ⊢
          exact inv.acked acks handlers taken foundLater names le acked
    · -- the broker stores the copy in this step
      have wire : before.place = .wire := by
        cases place : before.place <;> simp [place, Place.stored] at early ⊢
      have safe : after.place.safe = true := by
        rw [wire] at placed
        generalize after.place = place' at placed stored
        cases placed with
        | stored => rfl
        | kept => cases stored
        | deadLettered _ _ _ waiting => cases waiting
        | delivered _ _ waiting => cases waiting
        | acked _ _ settled => cases settled
        | returned _ _ _ unacked => cases unacked
        | settled _ _ _ _ _ _ _ _ _ _ _ _ unacked => cases unacked
      exact Or.inr ⟨id, after, Nat.le_refl id, found, by rw [message], safe⟩

end Steps

theorem kept_invariant {stock : Int → Option Nat} {allowed : State → Action → Prop} {s : State}
    (reachable : (system stock).Reachable allowed s) : KeptInv s := by
  apply reachable.invariant (I := KeptInv)
  · rintro s rfl id copy orderId found
    cases found
  · intro s a s' before inv _ taken
    exact inv.step (acks_invariant before).1 (copies_invariant before).2 taken

/-- **No loss.** In every reachable state and for each committed order, its event is PENDING or
PROCESSING, or the broker has a message for it that nobody has acked, or its notification was
completed. -/
theorem no_order_lost (stock : Int → Option Nat) (s : State)
    (reachable : (system stock).Reachable anyStep s) (order : Order)
    (member : order ∈ s.db.orders) :
    (∃ row ∈ s.db.outboxEvents, row.announces order.id = true ∧
      (row.status = .pending ∨ row.status = .processing)) ∨
    (∃ (id : CopyId) (copy : Copy), s.copies[id]? = some copy ∧
      start copy.message.content = .ok (some (.number order.id)) ∧ copy.place.safe = true) ∨
    (∃ id time, .notified (some (.number order.id)) id time ∈ s.history) := by
  have paired := List.forall₂_map_right_iff.mp (sales_invariant reachable).2.paired
  obtain ⟨row, listed, pairs⟩ := Registry.forall₂_mem_left paired member
  have pair : Pairs order (PrismaOutboxRepository.identity row) := pairs
  have announces : row.announces order.id = true := by simp [pair.announces]
  cases status : row.status with
  | pending => exact Or.inl ⟨row, listed, announces, Or.inl status⟩
  | processing => exact Or.inl ⟨row, listed, announces, Or.inr status⟩
  | sent =>
    right
    obtain ⟨orderId, carries, id, copy, found, stored, names⟩ :=
      (announced_invariant reachable).sent row listed status
    -- the row's event was published with the order's own id
    have same : orderId = order.id := by
      simp only [OutboxEvent.announces, carries, Option.some.injEq] at announces
      simpa using (of_decide_eq_true announces).2
    rw [same] at names
    rcases kept_invariant reachable id copy _ found stored names with notified | kept
    · exact Or.inr notified
    · obtain ⟨later, other, _, present, content, safe⟩ := kept
      exact Or.inl ⟨later, other, present, content ▸ names, safe⟩

/-- The event is marked SENT; the message is delivered to instance 1, which locks the order and
dies. -/
def lostConsumer : State :=
  .after anyStep (fun _ => some 1)
    (publishedOrder ++
      [.publisherSettles 0 .ok, .publisherResumes 0 (some 0) false, .publisherSettles 0 .ok,
        .deliver 0 1, .handlerSettles 0 .ok, .handlerResumes 0 false, .handlerSettles 0 .ok,
        .crash 1])

/-- Neither the row nor the history accounts for the order, so the broker does. -/
theorem lostConsumer_keeps :
    lostConsumer.db.orders.map (·.id) = [1] ∧
    ∃ (id : CopyId) (copy : Copy), lostConsumer.copies[id]? = some copy ∧
      start copy.message.content = .ok (some (.number 1)) ∧ copy.place.safe = true := by
  have orders : lostConsumer.db.orders = [⟨⟨1, 7, 1⟩, 1⟩] := by decide +kernel
  have sent : ∀ row ∈ lostConsumer.db.outboxEvents, row.status = .sent := by decide +kernel
  have silent : ∀ event ∈ lostConsumer.history, ¬event.outboxId? = none ∨
      event = .lockStored (some (.number 1)) 0 0 := by decide +kernel
  refine ⟨by rw [orders]; rfl, ?_⟩
  rcases no_order_lost _ lostConsumer (State.after_reachable ..) ⟨⟨1, 7, 1⟩, 1⟩ (by simp [orders])
    with ⟨row, listed, _, pending | processing⟩ | kept | ⟨id, time, noted⟩
  · cases (sent row listed).symm.trans pending
  · cases (sent row listed).symm.trans processing
  · simpa using kept
  · rcases silent _ noted with outbox | lock
    · exact absurd rfl outbox
    · cases lock

end FlashSaleLab
