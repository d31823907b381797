import FlashSaleLab.Consumer.Completion
import FlashSaleLab.Outbox.Announcements
import FlashSaleLab.Sales.Origin

/-!
# Where messages and notifications come from

A message's body is the payload of a committed event, however often it was published and
republished, and an execution keys Redis by what it reads there. So behind each message,
notification and processed key stands the one call that committed the order.
-/
namespace FlashSaleLab

open OrderNotificationConsumer Transition

/-- The order is committed and its quantity is among what was taken from its product's stock. -/
def Taken (stock : Int → Option Nat) (s : State) (order : Order) : Prop :=
  order ∈ s.db.orders ∧ ∃ (n : Nat) (left : Int), stock order.productId = some n ∧
    s.db.inventory order.productId = some left ∧ 0 ≤ left ∧
    left + sold s.db.orders order.productId = n

/-- Each copy carries the order and the `requestId` of the call that committed the order. -/
def BodiesInv (s : State) : Prop :=
  ∀ (id : CopyId) (copy : Copy), s.copies[id]? = some copy → ∃ call order requestId,
    MadeBy s call order requestId ∧ copy.message.content = RabbitMqService.body order.id requestId

/-- Only orders that some call committed are notified. -/
def NotifiedInv (s : State) : Prop :=
  ∀ orderId handler time, .notified orderId handler time ∈ s.history → ∃ call order requestId,
    MadeBy s call order requestId ∧ orderId = some (.number order.id)

section Steps

variable {s s' : State} {a : Action}

/-- What the publisher fetched from an event's row is what `create` put there. -/
theorem EventsInv.fetched (events : EventsInv s) {row : OutboxEvent} {event : PendingOutboxEvent}
    (listed : row ∈ s.db.outboxEvents)
    (checked : PrismaOutboxRepository.toPending row = .ok event) : ∃ call order requestId,
      MadeBy s call order requestId ∧ event.payload.orderId = order.id ∧
        event.payload.requestId = requestId := by
  obtain ⟨call, order, requestId, traceContext, made, payload⟩ := events row listed
  obtain ⟨_, _, readsOrder, readsRequest⟩ := PrismaOutboxRepository.toPending_ok checked
  rw [payload] at readsOrder readsRequest
  refine ⟨call, order, requestId, made, ?_, ?_⟩
  · simpa [OutboxPayload.toJson, Json.property, List.lookup_cons, eq_comm] using readsOrder
  · simpa [OutboxPayload.toJson, Json.property, List.lookup_cons, eq_comm] using readsRequest

theorem BodiesInv.step (inv : BodiesInv s) (events : EventsInv s) (hands : AnnouncedInv s)
    (taken : s.step a = some s') : BodiesInv s' := by
  intro id after found
  have sales := salesStep taken
  cases copyStep taken found with
  | moved before old placed same =>
    obtain ⟨call, order, requestId, made, body⟩ := inv id before old
    refine ⟨call, order, requestId, made.mono sales, ?_⟩
    rw [same]
    exact body
  | published host event rest channel fresh suspended same =>
    obtain ⟨row, listed, checked⟩ := (hands.hands host).rows event
      (by simp [suspended, PublisherPc.events])
    obtain ⟨call, order, requestId, made, orderId, request⟩ := events.fetched listed checked
    refine ⟨call, order, requestId, made.mono sales, ?_⟩
    rw [same, ← orderId, ← request]
    rfl
  | republished mover handler parent queue message fresh present held site same =>
    -- a republished copy has the bytes of the copy its execution was given
    obtain ⟨call, order, requestId, made, body⟩ := inv handler.copy parent held
    refine ⟨call, order, requestId, made.mono sales, ?_⟩
    rw [same, ← body]
    exact site.content

theorem start_body (orderId : Rat) (requestId : String) :
    start (RabbitMqService.body orderId requestId) = .ok (some (.number orderId)) :=
  rfl

/-- The `orderId` an execution works on is the one in the copy it was given. -/
theorem BodiesInv.handler (inv : BodiesInv s) (handlers : HandlersInv s) {id : HandlerId}
    {handler : Handler} (found : s.handlers[id]? = some handler)
    (accepted : handler.pc ≠ .rejected) : ∃ call order requestId,
      MadeBy s call order requestId ∧ handler.orderId = some (.number order.id) := by
  obtain ⟨copy, held, _, reads⟩ := (handlers id handler found).given
  obtain ⟨call, order, requestId, made, body⟩ := inv handler.copy copy held
  refine ⟨call, order, requestId, made, ?_⟩
  have names := reads accepted
  rw [body, start_body] at names
  exact (Except.ok.inj names).symm

theorem NotifiedInv.step (inv : NotifiedInv s) (bodies : BodiesInv s) (handlers : HandlersInv s)
    (taken : s.step a = some s') : NotifiedInv s' := by
  intro orderId id time noted
  have sales := salesStep taken
  rcases (consumerStep taken).history_cases rfl noted with
    old | ⟨mover, handler, result, after, events, _, found, moved, _, new⟩
  · obtain ⟨call, order, requestId, made, names⟩ := inv orderId id time old
    exact ⟨call, order, requestId, made.mono sales, names⟩
  · -- of the calls an execution makes, only the notification notes one down
    generalize s'.redis = redis at moved
    cases moved with
    | notified suspended =>
      cases List.mem_singleton.mp new
      obtain ⟨call, order, requestId, made, names⟩ :=
        bodies.handler handlers found (by simp [suspended])
      exact ⟨call, order, requestId, made.mono sales, names⟩
    | lockTaken | markStored => simp at new
    | _ => cases new

end Steps

theorem bodies_invariant {stock : Int → Option Nat} {allowed : State → Action → Prop} {s : State}
    (reachable : (system stock).Reachable allowed s) : BodiesInv s := by
  apply reachable.invariant (I := BodiesInv)
  · rintro s rfl id copy found
    cases found
  · intro s a s' before inv _ taken
    exact inv.step (events_invariant before) (announced_invariant before) taken

theorem notified_invariant {stock : Int → Option Nat} {allowed : State → Action → Prop}
    {s : State} (reachable : (system stock).Reachable allowed s) : NotifiedInv s := by
  apply reachable.invariant (I := NotifiedInv)
  · rintro s rfl orderId handler time noted
    cases noted
  · intro s a s' before inv _ taken
    exact inv.step (bodies_invariant before) (copies_invariant before).2 taken

/-- A committed order's quantity was taken from the initial stock. -/
theorem MadeBy.taken {stock : Int → Option Nat} {allowed : State → Action → Prop} {s : State}
    (reachable : (system stock).Reachable allowed s) {id : CallId} {order : Order}
    {requestId : String} (made : MadeBy s id order requestId) : Taken stock s order := by
  refine ⟨made.committed, ?_⟩
  have ledger := (sales_invariant reachable).2
  cases row : stock order.productId with
  | none => exact absurd rfl ((ledger.absent _ row).2 order made.committed)
  | some n =>
    obtain ⟨left, present, nonneg, balance⟩ := ledger.conserved _ n row
    exact ⟨n, left, rfl, present, nonneg, balance⟩

/-- A dropped order id stands in no committed order. -/
theorem State.DroppedOrder.unmade {s : State} {n : Nat} (dropped : s.DroppedOrder n) {id : CallId}
    {order : Order} {requestId : String} (made : MadeBy s id order requestId) :
    order.id ≠ n := by
  rintro rfl
  exact dropped.unpublished (List.mem_map_of_mem made.committed)

/-- No message, notification or processed key is about the order id `n`. -/
def Unmentioned (s : State) (n : Nat) : Prop :=
  (∀ copy ∈ s.copies, start copy.message.content ≠ .ok (some (.number n))) ∧
  (∀ handler time, .notified (some (.number n)) handler time ∉ s.history) ∧
  s.redis (processedKey (some (.number n))) = none

/-- **Provenance.** In every reachable state, each message carries the order and the `requestId`
of a call that committed the order and took its quantity from the stock; each completed
notification and each processed key is about such an order; and an order row that a call
inserted before it ended with a `ConflictException` is never mentioned. -/
theorem messages_have_orders (stock : Int → Option Nat) (s : State)
    (reachable : (system stock).Reachable anyStep s) :
    (∀ copy ∈ s.copies, ∃ id order requestId, MadeBy s id order requestId ∧ Taken stock s order ∧
      copy.message.content = RabbitMqService.body order.id requestId) ∧
    (∀ orderId handler time, .notified orderId handler time ∈ s.history →
      ∃ id order requestId, MadeBy s id order requestId ∧ Taken stock s order ∧
        orderId = some (.number order.id)) ∧
    (∀ orderId entry, s.redis (processedKey orderId) = some entry →
      ∃ id order requestId, MadeBy s id order requestId ∧ Taken stock s order ∧
        orderId = some (.number order.id)) ∧
    (∀ before, (system stock).Reachable anyStep before → (system stock).Steps anyStep before s →
      ∀ (id : CallId) (inserting ended : CreateCall) (order : Order) (moment : Nat),
        before.calls[id]? = some inserting → inserting.pc.order? = some order →
        s.calls[id]? = some ended → ended.pc = .finished .conflict moment →
        Unmentioned s order.id) := by
  have bodies := bodies_invariant reachable
  have notifications := notified_invariant reachable
  have marks : ∀ orderId entry, s.redis (processedKey orderId) = some entry →
      ∃ id order requestId, MadeBy s id order requestId ∧ orderId = some (.number order.id) := by
    intro orderId entry present
    -- a processed key is written after a notification of its order
    obtain ⟨_, time, noted, _⟩ := (redis_invariant reachable).marks orderId entry present
    obtain ⟨handler, time, notified⟩ := (acks_invariant reachable).2 orderId _ time noted
    exact notifications orderId handler time notified
  refine ⟨?_, ?_, ?_, ?_⟩
  · intro copy member
    obtain ⟨position, found⟩ := List.mem_iff_getElem?.mp member
    obtain ⟨id, order, requestId, made, body⟩ := bodies position copy found
    exact ⟨id, order, requestId, made, made.taken reachable, body⟩
  · intro orderId handler time noted
    obtain ⟨id, order, requestId, made, names⟩ := notifications orderId handler time noted
    exact ⟨id, order, requestId, made, made.taken reachable, names⟩
  · intro orderId entry present
    obtain ⟨id, order, requestId, made, names⟩ := marks orderId entry present
    exact ⟨id, order, requestId, made, made.taken reachable, names⟩
  · intro before reachableBefore steps id inserting ended order moment inserted row found conflict
    have holds : heldNumber CreatePc.orderId? before.calls id = some order.id := by
      simp [heldNumber, inserted, CreatePc.orderId?, row]
    -- the id is never drawn again, so no committed order has it
    have dropped : s.DroppedOrder order.id := by
      rcases dropped_of_ended reachableBefore steps holds found conflict with dropped | ⟨_, created⟩
      · exact dropped
      · cases created
    refine ⟨fun copy member names => ?_, fun handler time noted => ?_, ?_⟩
    · obtain ⟨position, present⟩ := List.mem_iff_getElem?.mp member
      obtain ⟨_, other, _, made, body⟩ := bodies position copy present
      rw [body, start_body] at names
      exact dropped.unmade made (by simpa using names)
    · obtain ⟨_, other, _, made, names⟩ := notifications _ handler time noted
      exact dropped.unmade made (by simpa [eq_comm] using names)
    · cases present : s.redis (processedKey (some (.number order.id))) with
      | none => rfl
      | some entry =>
        obtain ⟨_, other, _, made, names⟩ := marks _ entry present
        exact absurd (by simpa [eq_comm] using names) (dropped.unmade made)

/-- Two calls want the last item of product 7; call 1 has inserted order 1. -/
def bothInserting : State :=
  .after anyStep (fun productId => if productId = 7 then some 1 else none)
    [.create 0 ⟨1, 7, 1⟩ "a" [], .create 1 ⟨2, 7, 1⟩ "b" [], .query 0 true, .query 1 true,
      .query 1 true, .query 0 true, .query 0 true, .query 1 true]

/-- Call 0 commits order 2 and call 1 meets the guard; order 2 is published and notified. -/
def soldOut : State :=
  (system fun productId => if productId = 7 then some 1 else none).play
    (fun s a => decide (anyStep s a)) bothInserting
    [.query 0 true, .query 0 true, .query 1 true, .query 1 true, .openChannel 0, .openChannel 1,
      .publishPending 0, .publisherSettles 0 .ok, .publisherResumes 0 (some 0) false,
      .publisherSettles 0 .ok, .publisherResumes 0 (some 0) false, .store 0, .deliver 0 1,
      .handlerSettles 0 .ok, .handlerResumes 0 false, .handlerSettles 0 .ok,
      .handlerResumes 0 false, .handlerSettles 0 .ok, .handlerResumes 0 false,
      .handlerSettles 0 .ok]

/-- Order 2 was notified by right, and nothing mentions order 1. -/
theorem soldOut_has_orders :
    (∃ id order requestId, MadeBy soldOut id order requestId ∧
      (some (.number 2) : Option Json) = some (.number order.id)) ∧ Unmentioned soldOut 1 := by
  have start : (system _).Reachable anyStep bothInserting := State.after_reachable ..
  have steps : (system _).Steps anyStep bothInserting soldOut :=
    Transition.System.play_steps _ (fun _ _ => of_decide_eq_true) _ _
  obtain ⟨_, notified, _, unmentioned⟩ := messages_have_orders _ soldOut (start.trans steps)
  constructor
  · have noted : .notified (some (.number 2)) 0 0 ∈ soldOut.history := by decide +kernel
    obtain ⟨id, order, requestId, made, _, names⟩ := notified _ 0 0 noted
    exact ⟨id, order, requestId, made, names⟩
  · have inserted : (bothInserting.calls[1]?).bind (fun call => call.pc.order?) =
        some ⟨⟨2, 7, 1⟩, 1⟩ := by decide +kernel
    obtain ⟨inserting, found, row⟩ := Option.bind_eq_some_iff.mp inserted
    have ended : (soldOut.calls[1]?).map (·.pc) = some (.finished .conflict 11) := by
      decide +kernel
    obtain ⟨call, present, conflict⟩ := Option.map_eq_some_iff.mp ended
    exact unmentioned bothInserting start steps 1 inserting call _ 11 found row present conflict

end FlashSaleLab
