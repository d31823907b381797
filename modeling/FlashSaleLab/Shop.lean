import FlashSaleLab.Foundations.Ledger
import FlashSaleLab.Foundations.Refinement
import FlashSaleLab.Provenance

/-!
# The system keeps a ledger of sales

Seen through the committed rows and the completed notifications, every run of the system, with all
its retries, crashes and redeliveries, is a run of `Ledger`: a commit is a sale, a completed
notification an announcement, and nothing else can be seen.
-/
namespace FlashSaleLab

open OrderNotificationConsumer PrismaOrderUnitOfWork Transition

def Order.sold (order : Order) : Sold Nat Int :=
  ⟨order.id, order.productId, order.quantity.toNat⟩

/-- A product without an inventory row has nothing to sell. -/
def State.ledger (s : State) : Ledger Nat Int where
  left productId := ((s.db.inventory productId).getD 0).toNat
  sales := s.db.orders.map Order.sold
  announced := { id | Notified s (some (.number id)) }

section Steps

variable {stock : Int → Option Nat} {s s' : State} {a : Action}

theorem ledger_congr (inventory : s'.db.inventory = s.db.inventory)
    (orders : s'.db.orders = s.db.orders)
    (notified : ∀ orderId, Notified s' orderId ↔ Notified s orderId) : s'.ledger = s.ledger := by
  simp only [State.ledger, inventory, orders, notified]

/-- Events that are no completed notifications change nothing of that kind. -/
theorem notified_congr {events : List Event} (history : s'.history = events ++ s.history)
    (quiet : ∀ orderId id time, .notified orderId id time ∉ events) (orderId : Option Json) :
    Notified s' orderId ↔ Notified s orderId := by
  simp only [Notified, history, List.mem_append]
  constructor
  · rintro ⟨id, time, new | old⟩
    · exact absurd new (quiet orderId id time)
    · exact ⟨id, time, old⟩
  · rintro ⟨id, time, old⟩
    exact ⟨id, time, Or.inr old⟩

theorem foreign_quiet {events : List Event} (foreign : ∀ event ∈ events, event.outboxId? ≠ none) :
    ∀ orderId id time, .notified orderId id time ∉ events :=
  fun _ _ _ member => foreign _ member rfl

/-- A commit is a sale: the row lock has kept the stock it was made for. -/
theorem ledger_commit {id : CallId} {call : CreateCall} {order : Order} {event : OutboxEvent}
    {left : Int} (inv : CallInv s.db id call)
    (suspended : call.pc = .committing order event left)
    (fresh : order.id ∉ s.db.orders.map (·.id))
    (db : s'.db = commit s.db id order event left) (history : s'.history = s.history) :
    s.ledger.enter (.sell order.sold) = some s'.ledger := by
  obtain ⟨_, nonneg, row⟩ := inv.writes order event left suspended
  have input : order.toCreateOrderInput = call.input :=
    inv.order order (by simp [suspended, CreatePc.order?])
  have positive : 1 ≤ order.quantity := by
    have := inv.quantity
    rwa [← input] at this
  rw [← input] at row
  have enters : s.ledger.enter (.sell order.sold) = some { s.ledger with
      left := s'.ledger.left
      sales := s.ledger.sales ++ [order.sold] } := by
    apply Ledger.enter_sell
    · simp only [Order.sold]
      omega
    · simpa [Ledger.ids, State.ledger, Order.sold] using fresh
    · simp only [State.ledger, Order.sold, db, commit, Function.update_self, row,
        Option.getD_some]
      omega
    · intro productId other
      have apart : productId ≠ order.productId := other
      simp [State.ledger, db, commit, rollback, apart]
  rw [enters]
  simp only [State.ledger, db, Notified, history, commit, List.map_append, List.map_cons,
    List.map_nil]

/-- What a step of the system enters into the ledger, if anything. -/
theorem ledger_step (reachable : (system stock).Reachable anyStep s)
    (taken : s.step a = some s') :
    s'.ledger = s.ledger ∨ ∃ entry, s.ledger.enter entry = some s'.ledger := by
  have later := (sales_invariant (reachable.step trivial taken)).2.orderIds.nodup
  obtain ⟨calls, ledger⟩ := sales_invariant reachable
  obtain ⟨t, acts, rfl⟩ := State.step_cases taken
  cases acts with
  | queried id ok call db pc found executed =>
    generalize moment : s.moment = m at executed
    cases executed with
    | committed order event left suspended =>
      right
      refine ⟨_, ledger_commit (calls id call found) suspended ?_ rfl rfl⟩
      -- the new id is none of the old ones
      simp only [commit, List.map_append, List.map_cons, List.map_nil] at later
      intro member
      exact (List.nodup_append.mp later).2.2 _ member _ (List.mem_singleton.mpr rfl) rfl
    | _ => exact Or.inl rfl
  | handlerSettled id handler result redis after found settled =>
    have moved := settle_cases settled
    generalize noted : handlerEvents s.redis s.now id handler result = events at moved
    by_cases completes : ∃ time, events = [.notified handler.orderId id time]
    · -- the order is one some call has committed
      obtain ⟨time, rfl⟩ := completes
      have accepted : handler.pc ≠ .rejected := moved.identity.2.2.2
      obtain ⟨_, order, _, made, names⟩ := (bodies_invariant reachable).handler
        (copies_invariant reachable).2 found accepted
      right
      refine ⟨.announce order.id, ?_⟩
      have known : order.id ∈ s.ledger.ids := by
        simp only [Ledger.ids, State.ledger, List.map_map, List.mem_map]
        exact ⟨order, made.committed, rfl⟩
      rw [Ledger.enter, if_pos known]
      congr 1
      simp only [State.ledger, Ledger.mk.injEq, true_and]
      ext other
      simp only [Set.mem_insert_iff, Set.mem_ofPred_eq, Notified, List.mem_append,
        List.mem_singleton, Event.notified.injEq, names]
      constructor
      · rintro (rfl | ⟨mover, since, old⟩)
        · exact ⟨id, time, Or.inl ⟨rfl, rfl, rfl⟩⟩
        · exact ⟨mover, since, Or.inr old⟩
      · rintro ⟨mover, since, ⟨same, _⟩ | old⟩
        · left
          simpa using same
        · exact Or.inr ⟨mover, since, old⟩
    · left
      have quiet : ∀ orderId mover time, .notified orderId mover time ∉ events := ?_
      · exact ledger_congr rfl rfl (notified_congr rfl quiet)
      intro orderId mover time member
      cases moved with
      | notified suspended answered => exact completes ⟨_, rfl⟩
      | lockTaken | markStored => simp at member
      | _ => cases member
  | publisherSettled =>
    exact Or.inl (ledger_congr rfl rfl
      (notified_congr rfl (foreign_quiet publisherEvents_foreign)))
  | published host channel sendThrows segment =>
    exact Or.inl (ledger_congr rfl rfl
      (notified_congr rfl (foreign_quiet (published?_foreign segment.publisher.pc))))
  | recovered calledAt past =>
    refine Or.inl (ledger_congr rfl rfl (notified_congr rfl ?_))
    intro orderId id time member
    obtain ⟨row, _, same⟩ := List.mem_map.mp member
    cases same
  | _ => exact Or.inl rfl

end Steps

/-- The stock the books start with. -/
def openingStock (stock : Int → Option Nat) (productId : Int) : Nat := (stock productId).getD 0

/-- Each step of the system is at most one entry. -/
theorem ledger_refinement (stock : Int → Option Nat) :
    Refines (system stock) anyStep (Ledger.system (openingStock stock)) Ledger.anyEntry
      State.ledger := by
  apply Refines.of_step
  · rintro s rfl
    simp only [Ledger.system, State.ledger, State.initial, Notified, List.map_nil, Ledger.mk.injEq,
      true_and]
    constructor
    · funext productId
      cases row : stock productId <;> simp [openingStock, row]
    · simp
  · intro s a s' reachable _ taken
    rcases ledger_step reachable taken with same | ⟨entry, entered⟩
    · exact Or.inl same
    · exact Or.inr ⟨entry, trivial, entered⟩

/-- **Refinement.** Whatever the instances, the broker, Redis and the clock do, what the system
shows of its orders, stocks and notifications are books a shop without failures could have, in
order. A step enters nothing, one sale for which enough was left or one announcement of an order
that was sold, and a run what its steps do. -/
theorem system_keeps_ledger (stock : Int → Option Nat) (s : State)
    (reachable : (system stock).Reachable anyStep s) :
    (Ledger.system (openingStock stock)).Reachable Ledger.anyEntry s.ledger ∧
    Ledger.Balanced (openingStock stock) s.ledger ∧
    (∀ a s', (system stock).step s a = some s' →
      s'.ledger = s.ledger ∨ ∃ entry, s.ledger.enter entry = some s'.ledger) ∧
    ∀ s', (system stock).Steps anyStep s s' →
      (Ledger.system (openingStock stock)).Steps Ledger.anyEntry s.ledger s'.ledger := by
  have refines := ledger_refinement stock
  exact ⟨refines.reachable reachable, refines.invariant Ledger.balanced_invariant reachable,
    fun _ _ taken => ledger_step reachable taken, fun s' steps => refines.steps reachable steps⟩

/-- Both calls want the only piece. -/
def lastPiece : State :=
  .after anyStep (fun _ => some 1)
    ([.create 0 ⟨1, 7, 1⟩ "a" [], .create 1 ⟨2, 7, 1⟩ "b" [], .query 0 true, .query 1 true,
      .query 0 true] ++ List.replicate 3 (.query 0 true) ++ List.replicate 3 (.query 1 true))

theorem lastPiece_ledger :
    lastPiece.ledger.left 7 = 0 ∧ lastPiece.ledger.sales = [⟨1, 7, 1⟩] ∧
    (Ledger.system (openingStock fun _ => some 1)).Reachable Ledger.anyEntry lastPiece.ledger ∧
    ∀ a s', (system fun _ => some 1).step lastPiece a = some s' →
      s'.ledger = lastPiece.ledger ∨ ∃ entry, lastPiece.ledger.enter entry = some s'.ledger := by
  obtain ⟨books, _, entries, _⟩ := system_keeps_ledger _ lastPiece (State.after_reachable ..)
  exact ⟨by decide +kernel, by decide +kernel, books, entries⟩

end FlashSaleLab
