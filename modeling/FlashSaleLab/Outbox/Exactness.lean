import FlashSaleLab.OrderService
import FlashSaleLab.Outbox.Batches

/-!
# A cycle up to its first failure

The PENDING rows come from `OrderService.create`, so every row of a batch is published unless a call
rejects: `publishPending_exact`.
-/
namespace FlashSaleLab

open PrismaOutboxRepository

/-- Each PENDING row was inserted by `create`, for the call and the order of its id. -/
def CreatedBy (call : Nat → CreateCall) (order : Nat → Order) (rows : List OutboxEvent) : Prop :=
  ∀ row ∈ rows, row.status = .pending →
    identity row = identity (create (OrderService.outboxInput (call row.id) (order row.id)) row.id)

/-- What the consumers have to be told about the row. -/
def createdMessage (call : Nat → CreateCall) (order : Nat → Order) (row : OutboxEvent) : Message :=
  RabbitMqService.message (order row.id).id (call row.id).requestId

/-- The event that is fetched for the row. -/
def createdEvent (call : Nat → CreateCall) (order : Nat → Order) (row : OutboxEvent) :
    PendingOutboxEvent :=
  ⟨row.id, "ORDER_NOTIFICATION", (OrderService.outboxInput (call row.id) (order row.id)).payload⟩

/-- A row of a table in which a cycle came as far as the call for `last` that rejected. -/
def OutboxEvent.stopped (row : OutboxEvent) (calls : CycleCalls) (before : List OutboxEvent)
    (last : OutboxEvent) (site : CallSite) : OutboxEvent :=
  if row ∈ before then row.markedSent (calls.sentAt row.id)
  else if row = last ∧ site ≠ .claim then row.claimed (calls.claimedAt row.id)
  else row

/-- The table with the batch SENT. -/
def sentBatch (sentAt : Nat → Time) (rows : List OutboxEvent) : List OutboxEvent :=
  rows.map fun row => if row ∈ batch rows then row.markedSent (sentAt row.id) else row

/-- The rows of the first `n` batches. -/
def batches (n : Nat) (rows : List OutboxEvent) : List OutboxEvent :=
  (pendingRows rows).take (n * OutboxPublisherService.batchSize)

/-- A row is SENT when it belongs to `served`, and as it was otherwise. -/
def Served (served : List OutboxEvent) (row row' : OutboxEvent) : Prop :=
  if row ∈ served then ∃ sentAt, row' = row.markedSent sentAt else row' = row

section Created

variable {call : Nat → CreateCall} {order : Nat → Order} {rows : List OutboxEvent}
  {row : OutboxEvent} {calls : CycleCalls}

/-- The checks look at what a row keeps for ever. -/
theorem toPending_identity {row row' : OutboxEvent} (same : identity row = identity row') :
    toPending row = toPending row' := by
  simp only [identity, Prod.mk.injEq] at same
  obtain ⟨id, type, payload⟩ := same
  simp only [toPending, id, type, payload]

theorem toPending_created (created : CreatedBy call order rows) (member : row ∈ rows)
    (pending : row.status = .pending) : toPending row = .ok (createdEvent call order row) :=
  (toPending_identity (created row member pending)).trans (toPending_create _ _)

theorem CreatedBy.type (created : CreatedBy call order rows) (member : row ∈ rows)
    (pending : row.status = .pending) : row.type = "ORDER_NOTIFICATION" := by
  have same := created row member pending
  simp only [identity, Prod.mk.injEq] at same
  exact same.2.1

theorem findPending_created (created : CreatedBy call order rows) :
    findPending rows OutboxPublisherService.batchSize =
      .ok ((batch rows).map (createdEvent call order)) := by
  rw [findPending_batch, List.forall₂_map_right_iff, List.forall₂_same]
  intro row inBatch
  obtain ⟨member, pending⟩ := mem_batch inBatch
  exact toPending_created created member pending

theorem notifications_created (fetched : List OutboxEvent) :
    notifications (fetched.map (createdEvent call order)) =
      fetched.map (createdMessage call order) := by
  have all : (fetched.map (createdEvent call order)).filter (·.type = "ORDER_NOTIFICATION") =
      fetched.map (createdEvent call order) := by
    rw [List.filter_eq_self]
    intro event member
    obtain ⟨row, _, rfl⟩ := List.mem_map.mp member
    rfl
  rw [notifications, all, List.map_map]
  rfl

theorem ids_created (fetched : List OutboxEvent) :
    (fetched.map (createdEvent call order)).map (·.id) = fetched.map (·.id) := by
  rw [List.map_map]
  rfl

/-- The rows that were passed, by the rows. -/
theorem passedRows_created (keyed : (rows.map (·.id)).Nodup) (created : CreatedBy call order rows)
    {before : List OutboxEvent} (fetched : before ⊆ batch rows) :
    passedRows calls (before.map (·.id)) rows =
      rows.map fun row => if row ∈ before then row.markedSent (calls.sentAt row.id) else row := by
  refine List.map_congr_left fun row member => ?_
  -- ids are distinct, so a row goes by its id
  have named : row.id ∈ before.map (·.id) ↔ row ∈ before := by
    refine ⟨fun inside => ?_, fun inside => List.mem_map_of_mem inside⟩
    obtain ⟨other, present, same⟩ := List.mem_map.mp inside
    exact List.inj_on_of_nodup_map keyed (mem_batch (fetched present)).1 member same ▸ present
  by_cases inside : row ∈ before
  · have pending := (mem_batch (fetched inside)).2
    simp [named, inside, OutboxEvent.passed, created.type member pending]
  · simp [named, inside]

theorem stoppedRows_created (keyed : (rows.map (·.id)).Nodup) (created : CreatedBy call order rows)
    {before : List OutboxEvent} {last : OutboxEvent} (fetched : before ⊆ batch rows)
    (member : last ∈ rows) (fresh : last ∉ before) (site : CallSite) :
    stoppedRows calls (before.map (·.id)) last.id rows site =
      rows.map (·.stopped calls before last site) := by
  have claimed : claimedRows calls (before.map (·.id)) last.id rows =
      rows.map fun row => if row ∈ before then row.markedSent (calls.sentAt row.id)
        else if row = last then row.claimed (calls.claimedAt row.id) else row := by
    rw [claimedRows, passedRows_created keyed created fetched, updateMany, List.map_map]
    refine List.map_congr_left fun row inside => ?_
    -- the claim writes to `last` alone, and no earlier row is `last`
    by_cases same : row.id = last.id
    · cases List.inj_on_of_nodup_map keyed inside member same
      simp [fresh]
    · have other : row ≠ last := fun equal => same (congrArg _ equal)
      by_cases passed : row ∈ before
      · simp [passed, same, OutboxEvent.markedSent]
      · simp [passed, same, other]
  -- the claim that rejects has written nothing
  cases site with
  | claim =>
    refine (passedRows_created keyed created fetched).trans ?_
    simp [OutboxEvent.stopped]
  | publish | markAsSent =>
    refine claimed.trans ?_
    simp [OutboxEvent.stopped]

end Created

section Cycles

variable {call : Nat → CreateCall} {order : Nat → Order} {s : CycleState} {calls : CycleCalls}

/-- Nothing rejects, and every row of the batch is SENT. -/
theorem created_passes (idle : s.activeExecutions = 0) (queried : calls.findPending = none)
    (keyed : (s.outboxEvents.map (·.id)).Nodup) (created : CreatedBy call order s.outboxEvents)
    (clear : ∀ row ∈ batch s.outboxEvents, calls.firstRejection row.id = none) :
    (Cycle.publishPending calls).run s = .ok () { s with
      outboxEvents := sentBatch calls.sentAt s.outboxEvents
      sent := s.sent ++ (batch s.outboxEvents).map (createdMessage call order)
      confirmed := s.confirmed ++ (batch s.outboxEvents).map (createdMessage call order) } := by
  have passes := publishPending_passes idle queried keyed (findPending_created created)
    fun event member => by
      obtain ⟨row, inBatch, rfl⟩ := List.mem_map.mp member
      exact clear row inBatch
  rw [passes, CycleState.passed, ids_created, notifications_created,
    passedRows_created keyed created (List.Subset.refl _)]
  rfl

/-- The first call that rejects is one for `row`. -/
theorem created_stops (idle : s.activeExecutions = 0) (queried : calls.findPending = none)
    (keyed : (s.outboxEvents.map (·.id)).Nodup) (created : CreatedBy call order s.outboxEvents)
    {before rest : List OutboxEvent} {row : OutboxEvent}
    (split : batch s.outboxEvents = before ++ row :: rest)
    (clear : ∀ earlier ∈ before, calls.firstRejection earlier.id = none)
    {site : CallSite} {error : String}
    (rejects : calls.firstRejection row.id = some (site, error)) :
    ∃ sent, (Cycle.publishPending calls).run s = .error error { s with
      outboxEvents := s.outboxEvents.map (·.stopped calls before row site)
      sent
      confirmed := s.confirmed ++ before.map (createdMessage call order) ++
        site.confirmed (createdMessage call order row) } := by
  have fetched : before ⊆ batch s.outboxEvents := by
    rw [split]
    exact List.subset_append_left _ _
  have inBatch : row ∈ batch s.outboxEvents := by simp [split]
  -- a batch has no row twice
  have fresh : row ∉ before := by
    have once := List.Nodup.of_map _ (batch_keyed keyed)
    rw [split, List.nodup_append] at once
    exact fun inside => once.2.2 row inside row List.mem_cons_self rfl
  have events : (batch s.outboxEvents).map (createdEvent call order) =
      before.map (createdEvent call order) ++
        createdEvent call order row :: rest.map (createdEvent call order) := by
    rw [split, List.map_append, List.map_cons]
  obtain ⟨sent, stops⟩ := publishPending_stops idle queried keyed (findPending_created created)
    events rfl (fun event inside => by
      obtain ⟨earlier, present, rfl⟩ := List.mem_map.mp inside
      exact clear earlier present) rejects
  refine ⟨sent, stops.trans ?_⟩
  rw [ids_created, notifications_created,
    ← stoppedRows_created keyed created fetched (mem_batch inBatch).1 fresh site]
  rfl

end Cycles

section Runs

variable {call : Nat → CreateCall} {order : Nat → Order} {rows : List OutboxEvent}

theorem filter_notMem_take {α : Type} [DecidableEq α] {items : List α} (once : items.Nodup)
    (n : Nat) : items.filter (· ∉ items.take n) = items.drop n := by
  have first : (items.take n).filter (· ∉ items.take n) = [] := by simp
  have others : (items.drop n).filter (· ∉ items.take n) = items.drop n := by
    rw [List.filter_eq_self]
    intro item later
    simpa using fun earlier => List.disjoint_take_drop once (Nat.le_refl n) earlier later
  calc items.filter (· ∉ items.take n)
      = (items.take n ++ items.drop n).filter (· ∉ items.take n) := by
        rw [List.take_append_drop]
    _ = items.drop n := by rw [List.filter_append, first, others, List.nil_append]

theorem sentBatch_ids (sentAt : Nat → Time) :
    (sentBatch sentAt rows).map (·.id) = rows.map (·.id) := by
  rw [sentBatch, List.map_map]
  refine List.map_congr_left fun row _ => ?_
  by_cases inBatch : row ∈ batch rows <;> simp [inBatch, OutboxEvent.markedSent]

theorem sentBatch_pending (sentAt : Nat → Time) :
    (sentBatch sentAt rows).filter (·.status = .pending) =
      (rows.filter (·.status = .pending)).filter (· ∉ batch rows) := by
  rw [sentBatch, List.filter_map, List.filter_filter]
  -- a row of the batch is SENT now, and any other as it was
  have waiting : rows.filter ((fun row => decide (row.status = .pending)) ∘ fun row =>
        if row ∈ batch rows then row.markedSent (sentAt row.id) else row) =
      rows.filter fun row => decide (row ∉ batch rows) && decide (row.status = .pending) := by
    refine List.filter_congr fun row _ => ?_
    by_cases inBatch : row ∈ batch rows <;> simp [inBatch, OutboxEvent.markedSent]
  rw [waiting]
  refine (List.map_congr_left fun row member => ?_).trans (List.map_id' _)
  have outside : row ∉ batch rows := by
    have both := (List.mem_filter.mp member).2
    simp only [Bool.and_eq_true, decide_eq_true_eq] at both
    exact both.1
  exact if_neg outside

/-- The next cycle goes on where this one ended. -/
theorem pendingRows_sentBatch (keyed : (rows.map (·.id)).Nodup) (sentAt : Nat → Time) :
    pendingRows (sentBatch sentAt rows) =
      (pendingRows rows).drop OutboxPublisherService.batchSize := by
  have once : (pendingRows rows).Nodup := List.Nodup.of_map _ (pendingRows_keyed keyed)
  have same : List.Perm (pendingRows (sentBatch sentAt rows))
      ((pendingRows rows).drop OutboxPublisherService.batchSize) := by
    calc List.Perm (pendingRows (sentBatch sentAt rows))
          ((sentBatch sentAt rows).filter (·.status = .pending)) := List.perm_insertionSort _ _
      _ = (rows.filter (·.status = .pending)).filter (· ∉ batch rows) := sentBatch_pending sentAt
      List.Perm _ ((pendingRows rows).filter (· ∉ batch rows)) :=
        (List.perm_insertionSort _ _).symm.filter _
      _ = (pendingRows rows).drop OutboxPublisherService.batchSize := filter_notMem_take once _
  have keyed' : ((sentBatch sentAt rows).map (·.id)).Nodup := by
    rw [sentBatch_ids]
    exact keyed
  -- both lists are sorted by distinct ids
  exact List.Perm.eq_of_pairwise
    (fun a b _ _ less greater => absurd greater (Nat.lt_asymm less)) (pendingRows_sorted keyed')
    ((pendingRows_sorted keyed).sublist (List.drop_sublist _ _)) same

theorem sentBatch_created (created : CreatedBy call order rows) (sentAt : Nat → Time) :
    CreatedBy call order (sentBatch sentAt rows) := by
  intro row member pending
  obtain ⟨old, present, rfl⟩ := List.mem_map.mp member
  by_cases inBatch : old ∈ batch rows
  · simp [inBatch, OutboxEvent.markedSent] at pending
  · simp only [inBatch, if_false] at pending ⊢
    exact created old present pending

theorem batches_succ (keyed : (rows.map (·.id)).Nodup) (sentAt : Nat → Time) (n : Nat) :
    batches (n + 1) rows = batch rows ++ batches n (sentBatch sentAt rows) := by
  rw [batches, batches, pendingRows_sentBatch keyed, Nat.succ_mul, Nat.add_comm, List.take_add]
  rfl

/-- The batch that is sent first is not sent again. -/
theorem served_succ (keyed : (rows.map (·.id)).Nodup) (sentAt : Nat → Time) {n : Nat}
    {rows' : List OutboxEvent}
    (served : List.Forall₂ (Served (batches n (sentBatch sentAt rows))) (sentBatch sentAt rows)
      rows') : List.Forall₂ (Served (batches (n + 1) rows)) rows rows' := by
  rw [batches_succ keyed sentAt]
  -- compare the two tables through the one that the first cycle leaves
  generalize listed : batches n (sentBatch sentAt rows) = later at served ⊢
  rw [sentBatch, List.forall₂_map_left_iff] at served
  refine served.imp fun row row' once => ?_
  by_cases inBatch : row ∈ batch rows
  · -- the row is no longer PENDING, so no later batch has it
    have outside : row.markedSent (sentAt row.id) ∉ later := by
      rw [← listed]
      intro inside
      have pending := (mem_pendingRows.mp (List.mem_of_mem_take inside)).2
      cases pending
    simp only [Served, inBatch, if_true, outside, if_false] at once
    simp only [Served, List.mem_append, inBatch, true_or, if_true]
    exact ⟨_, once⟩
  · simpa [Served, inBatch] using once

/-- Cycles in which nothing rejects serve the PENDING rows in their order. -/
theorem cycles_run (cycles : List CycleCalls) (faultless : ∀ calls ∈ cycles, calls.Faultless)
    (s : CycleState) (idle : s.activeExecutions = 0) (keyed : (s.outboxEvents.map (·.id)).Nodup)
    (created : CreatedBy call order s.outboxEvents) :
    ∃ rows,
      (cycles.forM Cycle.publishPending).run s = .ok () { s with
        outboxEvents := rows
        sent := s.sent ++ (batches cycles.length s.outboxEvents).map (createdMessage call order)
        confirmed := s.confirmed ++
          (batches cycles.length s.outboxEvents).map (createdMessage call order) } ∧
      List.Forall₂ (Served (batches cycles.length s.outboxEvents)) s.outboxEvents rows := by
  -- a cycle at a time: the others start with the table it leaves
  induction cycles generalizing s with
  | nil =>
    have none : batches 0 s.outboxEvents = [] := by simp [batches]
    refine ⟨s.outboxEvents, ?_, ?_⟩
    · simp only [List.length_nil, none, List.map_nil, List.append_nil]
      rfl
    · rw [List.length_nil, none, List.forall₂_same]
      simp [Served]
  | cons calls cycles ih =>
    obtain ⟨queried, clear⟩ := faultless calls List.mem_cons_self
    have first := created_passes idle queried keyed created fun row _ => clear row.id
    have keyed' : ((sentBatch calls.sentAt s.outboxEvents).map (·.id)).Nodup := by
      rw [sentBatch_ids]
      exact keyed
    obtain ⟨rows, others, served⟩ := ih (fun calls later => faultless calls (.tail _ later))
      { s with
        outboxEvents := sentBatch calls.sentAt s.outboxEvents
        sent := s.sent ++ (batch s.outboxEvents).map (createdMessage call order)
        confirmed := s.confirmed ++ (batch s.outboxEvents).map (createdMessage call order) }
      idle keyed' (sentBatch_created created calls.sentAt)
    refine ⟨rows, ?_, served_succ keyed calls.sentAt served⟩
    simp only [List.forM, EStateM.run_bind, first, others, List.length_cons,
      batches_succ keyed calls.sentAt, List.map_append, List.append_assoc]

end Runs

/-- **Exact up to the first failure.** Every PENDING row comes from `create`. When a claim, publish
or `markAsSent` call rejects first for `row`, the cycle rejects with that error: the rows of the
batch before it are SENT and confirmed in their order, `row` is confirmed if the call is its
`markAsSent`, and it is PROCESSING unless the call is its claim. The other rows are unchanged, and
`activeExecutions` is 0 again. When nothing rejects, the batch is confirmed and SENT, and any number
of cycles confirm and mark the first rows, 500 for each cycle. -/
theorem publishPending_exact (call : Nat → CreateCall) (order : Nat → Order) (s : CycleState)
    (idle : s.activeExecutions = 0) (keyed : (s.outboxEvents.map (·.id)).Nodup)
    (created : CreatedBy call order s.outboxEvents) :
    (∀ calls : CycleCalls, calls.findPending = none →
      (∀ before row rest, batch s.outboxEvents = before ++ row :: rest →
        (∀ earlier ∈ before, calls.firstRejection earlier.id = none) →
        ∀ site error, calls.firstRejection row.id = some (site, error) →
          ∃ sent, (Cycle.publishPending calls).run s = .error error
            { outboxEvents := s.outboxEvents.map (·.stopped calls before row site)
              activeExecutions := 0
              sent
              confirmed := s.confirmed ++ before.map (createdMessage call order) ++
                site.confirmed (createdMessage call order row) }) ∧
      ((∀ row ∈ batch s.outboxEvents, calls.firstRejection row.id = none) →
        (Cycle.publishPending calls).run s = .ok ()
          { outboxEvents := sentBatch calls.sentAt s.outboxEvents
            activeExecutions := 0
            sent := s.sent ++ (batch s.outboxEvents).map (createdMessage call order)
            confirmed := s.confirmed ++
              (batch s.outboxEvents).map (createdMessage call order) })) ∧
    ∀ cycles : List CycleCalls, (∀ calls ∈ cycles, calls.Faultless) →
      ∃ rows, (cycles.forM Cycle.publishPending).run s = .ok ()
          { outboxEvents := rows
            activeExecutions := 0
            sent := s.sent ++ (batches cycles.length s.outboxEvents).map (createdMessage call order)
            confirmed := s.confirmed ++
              (batches cycles.length s.outboxEvents).map (createdMessage call order) } ∧
        List.Forall₂ (Served (batches cycles.length s.outboxEvents)) s.outboxEvents rows := by
  refine ⟨fun calls queried => ⟨?_, ?_⟩, ?_⟩
  · intro before row rest split clear site error rejects
    obtain ⟨sent, stops⟩ := created_stops idle queried keyed created split clear rejects
    exact ⟨sent, by rw [stops, idle]⟩
  · intro clear
    rw [created_passes idle queried keyed created clear, idle]
  · intro cycles faultless
    obtain ⟨rows, runs, served⟩ := cycles_run cycles faultless s idle keyed created
    exact ⟨rows, by rw [runs, idle], served⟩

/-- Event `id` was inserted with order `id + 5`. -/
def shopCall (_ : Nat) : CreateCall := ⟨0, ⟨1, 1, 1⟩, "a", [], 0, .prechecking⟩

def shopOrder (id : Nat) : Order := PrismaOrderRepository.create ⟨1, 1, 1⟩ (id + 5)

def shopEvent (id : Nat) : OutboxEvent :=
  create (OrderService.outboxInput (shopCall id) (shopOrder id)) id

/-- Event 1 was sent before. -/
def shopTable : CycleState := ⟨[shopEvent 3, (shopEvent 1).markedSent 0, shopEvent 2], 0, [], []⟩

theorem shopTable_created : CreatedBy shopCall shopOrder shopTable.outboxEvents := by
  intro row member pending
  simp only [shopTable, List.mem_cons, List.not_mem_nil, or_false] at member
  rcases member with rfl | rfl | rfl <;> rfl

/-- The database fails at the last call. -/
def lastMarkFails : CycleCalls :=
  ⟨none, fun _ => none, fun _ => none, fun id => if id = 3 then some "timeout" else none,
    fun _ => 10, fun _ => 20⟩

theorem lastMarkFails_run :
    ∃ sent, (Cycle.publishPending lastMarkFails).run shopTable = .error "timeout"
      ⟨[(shopEvent 3).claimed 10, (shopEvent 1).markedSent 0, (shopEvent 2).markedSent 20], 0, sent,
        [createdMessage shopCall shopOrder (shopEvent 2),
          createdMessage shopCall shopOrder (shopEvent 3)]⟩ := by
  have exact := publishPending_exact shopCall shopOrder shopTable rfl (by decide) shopTable_created
  have stops := (exact.1 lastMarkFails rfl).1 [shopEvent 2] (shopEvent 3) [] (by decide +kernel)
    (fun earlier member => by rw [List.mem_singleton.mp member]; rfl) .markAsSent "timeout" rfl
  obtain ⟨sent, stops⟩ := stops
  refine ⟨sent, stops.trans ?_⟩
  have rows : shopTable.outboxEvents.map
      (·.stopped lastMarkFails [shopEvent 2] (shopEvent 3) .markAsSent) =
      [(shopEvent 3).claimed 10, (shopEvent 1).markedSent 0, (shopEvent 2).markedSent 20] := by
    decide +kernel
  rw [rows]
  rfl

end FlashSaleLab
