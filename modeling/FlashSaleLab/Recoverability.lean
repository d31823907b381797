import FlashSaleLab.Consumer.Backlog

/-!
# No state is a dead end

Crashes, lost channels and failed calls leave rows PROCESSING, messages on dead wires, locks nobody
releases and executions that nack. From every state a run can get into, one instance whose calls
succeed from then on can still get every order to its notification or to the DLQ.
-/
namespace FlashSaleLab

open OrderNotificationConsumer Transition

section Orders

variable {stock : Int → Option Nat} {lines : Lines} {s : State}

/-- An order whose event is SENT has a message that was stored. -/
theorem order_announced (reachable : (system stock).Reachable anyStep s) {order : Order}
    (member : order ∈ s.db.orders)
    (sent : ∀ row ∈ s.db.outboxEvents, row.announces order.id = true → row.status = .sent) :
    Announced s order.id := by
  have paired := List.forall₂_map_right_iff.mp (sales_invariant reachable).2.paired
  obtain ⟨row, listed, pairs⟩ := Registry.forall₂_mem_left paired member
  have pair : Pairs order (PrismaOutboxRepository.identity row) := pairs
  have announces : row.announces order.id = true := by simp [pair.announces]
  obtain ⟨orderId, carries, announced⟩ :=
    (announced_invariant reachable).sent row listed (sent row listed announces)
  -- the row's event was published with the order's own id
  have same : orderId = order.id := by
    simp only [OutboxEvent.announces, carries, Option.some.injEq] at announces
    simpa using (of_decide_eq_true announces).2
  exact same ▸ announced

/-- With every event SENT each order can be brought to its end. -/
theorem order_completes (reachable : (system stock).Reachable anyStep s) (sent : s.unsent = ∅)
    (open_ : lines.Open s) {order : Order} (member : order ∈ s.db.orders) :
    (system stock).CanReach (Serving lines) (fun s' => Handled s' (some (.number order.id))) s := by
  obtain ⟨id, copy, found, stored, names⟩ := order_announced reachable member
    fun row listed _ => unsent_eq_empty.mp sent row listed
  rcases kept_invariant reachable id copy _ found stored names with notified | kept
  · exact .here (Or.inl notified)
  · obtain ⟨later, kept, _, present, content, safe⟩ := kept
    exact safe_completes reachable open_ later kept present safe (content ▸ names)

/-- An instance that has its channels brings every order to its end. -/
theorem orders_complete (reachable : (system stock).Reachable anyStep s) (open_ : lines.Open s) :
    (system stock).CanReach (Serving lines) (fun s' => s'.unsent = ∅ ∧
      ∀ order ∈ s.db.orders, Handled s' (some (.number order.id))) s := by
  apply (backlog_drained reachable open_).trans
  intro drained first sent
  have reachable' := reachable_after reachable first
  have remains {later : State} (further : (system stock).Steps (Serving lines) drained later) :
      later.unsent = ∅ := Finset.subset_empty.mp (sent ▸ unsent_after reachable' further)
  apply (System.CanReach.all (fun order s' => Handled s' (some (.number order.id)))
    s.db.orders ?_ ?_).mono
  · exact fun later further handled => ⟨remains further, handled⟩
  · exact fun order _ s a s' handled _ taken => handled.mono taken
  · intro order member later further
    apply order_completes (reachable_after reachable' further) (remains further)
      (open_.after (first.trans further))
    rw [orders_after (first.trans further)]
    exact member

end Orders

/-- **Recoverability.** From every reachable state and for every instance there is a continuation
in which nothing fails any more, nothing is sold and no other instance publishes, and at whose end
all events are SENT and each committed order has been notified or has its message in the DLQ. -/
theorem every_order_recoverable (stock : Int → Option Nat) (host : InstanceId) (s : State)
    (reachable : (system stock).Reachable anyStep s) :
    ∃ s', (system stock).Steps (unfailing host) s s' ∧ s'.db.orders = s.db.orders ∧
      (∀ row ∈ s'.db.outboxEvents, row.status = .sent) ∧
      ∀ order ∈ s.db.orders, Notified s' (some (.number order.id)) ∨
        Parked s' (some (.number order.id)) := by
  obtain ⟨opened, taken, channels, same⟩ : ∃ opened,
      (system stock).step s (.openChannel host) = some opened ∧
      opened.channels = s.channels ++ [⟨host, .opened⟩] ∧ opened.db = s.db :=
    ⟨_, step_of_act rfl, rfl, rfl⟩
  have usable : opened.channels[s.channels.length]? = some ⟨host, .opened⟩ := by
    rw [channels]
    exact List.getElem?_concat_length
  -- the new channel serves both ways
  have open_ : Lines.Open ⟨host, s.channels.length, some s.channels.length⟩ opened :=
    ⟨usable, _, rfl, usable⟩
  obtain ⟨s', steps, sent, handled⟩ := orders_complete (reachable.step trivial taken) open_
  have orders := orders_after steps
  rw [same] at orders handled
  have continues : (system stock).Steps (unfailing host) opened s' :=
    steps.mono fun _ _ permitted => permitted.unfailing
  exact ⟨s', .head ⟨.openChannel host, rfl, taken⟩ continues, orders, unsent_eq_empty.mp sent,
    handled⟩

/-- Instance 0 sells an order and dies between its claim and its publication; the row stays
PROCESSING. -/
def claimedAndDead : State :=
  .after anyStep (fun _ => some 1)
    [.create 0 ⟨1, 7, 1⟩ "a" [], .query 0 true, .query 0 true, .query 0 true, .query 0 true,
      .query 0 true, .publishPending 0, .publisherSettles 0 .ok, .publisherResumes 0 none false,
      .publisherSettles 0 .ok, .crash 0]

theorem claimedAndDead_recoverable :
    claimedAndDead.db.outboxEvents.map (·.status) = [.processing] ∧
    ∃ s', (system fun _ => some 1).Steps (unfailing 1) claimedAndDead s' ∧
      (Notified s' (some (.number 1)) ∨ Parked s' (some (.number 1))) := by
  have orders : claimedAndDead.db.orders = [⟨⟨1, 7, 1⟩, 1⟩] := by decide +kernel
  refine ⟨by decide +kernel, ?_⟩
  obtain ⟨s', steps, _, _, handled⟩ :=
    every_order_recoverable _ 1 claimedAndDead (State.after_reachable ..)
  exact ⟨s', steps, by simpa using handled ⟨⟨1, 7, 1⟩, 1⟩ (by simp [orders])⟩

end FlashSaleLab
