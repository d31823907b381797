import FlashSaleLab.Outbox.Batches

/-!
# Bad rows in a batch

`findPending` throws for the whole batch when the payload of one row does not pass its checks, and
the loop claims an event before it looks at the type. `badRows_isolated_iff` says when a cycle all
the same does what it should for the other rows.
-/
namespace FlashSaleLab

open PrismaOutboxRepository

/-- The payload does not pass the checks. -/
def OutboxEvent.Malformed (row : OutboxEvent) : Prop := ∃ error, toPending row = .error error

/-- A well-formed ORDER_NOTIFICATION row. -/
def OutboxEvent.Sendable (row : OutboxEvent) : Prop :=
  row.type = "ORDER_NOTIFICATION" ∧ ∃ event, toPending row = .ok event

/-- What a well-formed ORDER_NOTIFICATION row announces. -/
def OutboxEvent.announcement (row : OutboxEvent) : Option Message :=
  match toPending row with
  | .ok event => if row.type = "ORDER_NOTIFICATION" then some event.message else none
  | .error _ => none

/-- A cycle from `s` to `s'` is not kept from its work by bad rows: the well-formed
ORDER_NOTIFICATION rows of the batch are published and SENT, and no row that was PENDING is
PROCESSING. -/
structure Isolated (s s' : CycleState) : Prop where
  published : ∃ messages, s'.confirmed = s.confirmed ++ messages ∧
    List.Sublist ((batch s.outboxEvents).filterMap (·.announcement)) messages
  marked : ∀ row ∈ batch s.outboxEvents, row.Sendable →
    ∃ sentAt, row.markedSent sentAt ∈ s'.outboxEvents
  settled : ∀ row ∈ s.outboxEvents, row.status = .pending →
    ∀ row' ∈ s'.outboxEvents, row'.id = row.id → row'.status ≠ .processing

section Rows

variable {rows : List OutboxEvent} {row : OutboxEvent} {events : List PendingOutboxEvent}

theorem malformed_or_ok (row : OutboxEvent) :
    row.Malformed ∨ ∃ event, toPending row = .ok event := by
  cases checked : toPending row with
  | error error => exact Or.inl ⟨error, checked⟩
  | ok event => exact Or.inr ⟨event, rfl⟩

theorem announcement_eq_none (unsendable : ¬ row.Sendable) : row.announcement = none := by
  unfold OutboxEvent.announcement
  split
  next event checked =>
    rw [if_neg]
    exact fun own => unsendable ⟨own, event, checked⟩
  · rfl

/-- One malformed row makes the query throw for the whole batch. -/
theorem findPending_error_iff :
    (∃ error, findPending rows OutboxPublisherService.batchSize = .error error) ↔
      ∃ row ∈ batch rows, row.Malformed := by
  constructor
  · rintro ⟨error, threw⟩
    by_contra allGood
    have checked (row : OutboxEvent) (inBatch : row ∈ batch rows) :
        ∃ event, toPending row = .ok event :=
      (malformed_or_ok row).resolve_left fun bad => allGood ⟨row, inBatch, bad⟩
    obtain ⟨events, found⟩ := Throwing.mapM_returns checked
    cases threw.symm.trans found
  · rintro ⟨row, inBatch, error, threw⟩
    exact Throwing.mapM_throws inBatch threw

/-- What is published is what the rows announce. -/
theorem notifications_batch
    (found : findPending rows OutboxPublisherService.batchSize = .ok events) :
    notifications events = (batch rows).filterMap (·.announcement) := by
  have all := findPending_batch.mp found
  clear found
  generalize batch rows = fetched at all ⊢
  induction all with
  | nil => rfl
  | @cons row event fetched events checked _ ih =>
    have sameType : event.type = row.type := (toPending_ok checked).2.1
    have first : row.announcement =
        if row.type = "ORDER_NOTIFICATION" then some event.message else none := by
      rw [OutboxEvent.announcement, checked]
    rw [List.filterMap_cons, ← ih, first]
    by_cases own : row.type = "ORDER_NOTIFICATION" <;>
      simp [notifications, sameType, own]

end Rows

section Cycles

variable {calls : CycleCalls} {s : CycleState} {events : List PendingOutboxEvent}

/-- Where the loop has passed, the row is SENT or, for an event of another type, PROCESSING. -/
theorem mem_passed
    (found : findPending s.outboxEvents OutboxPublisherService.batchSize = .ok events)
    {row : OutboxEvent} (inBatch : row ∈ batch s.outboxEvents) :
    row.passed calls ∈ (s.passed calls events).outboxEvents := by
  refine mem_updateMany.mpr ⟨row, (mem_batch inBatch).1, if_pos ?_⟩
  rw [findPending_ids found]
  simpa using ⟨row, inBatch, rfl⟩

/-- With no malformed row in the batch. -/
theorem isolated_found (keyed : (s.outboxEvents.map (·.id)).Nodup)
    (found : findPending s.outboxEvents OutboxPublisherService.batchSize = .ok events) :
    Isolated s (s.passed calls events) ↔ ∀ row ∈ batch s.outboxEvents, row.Sendable := by
  constructor
  · intro isolated row inBatch
    obtain ⟨event, _, checked⟩ := Throwing.mapM_returned found inBatch
    refine ⟨?_, event, checked⟩
    by_contra other
    -- a row of another type was claimed, and that was all
    have stuck : row.passed calls = row.claimed (calls.claimedAt row.id) := if_neg other
    obtain ⟨member, pending⟩ := mem_batch inBatch
    refine isolated.settled row member pending _ (mem_passed found inBatch) passed_id ?_
    rw [stuck]
    rfl
  · intro sendable
    have sent (row : OutboxEvent) (inBatch : row ∈ batch s.outboxEvents) :
        row.passed calls = row.markedSent (calls.sentAt row.id) := if_pos (sendable row inBatch).1
    refine ⟨⟨notifications events, rfl, ?_⟩, ?_, ?_⟩
    · rw [notifications_batch found]
    -- each row of the batch is one of its own
    · intro row inBatch _
      exact ⟨_, sent row inBatch ▸ mem_passed found inBatch⟩
    · intro row member pending row' member' same processing
      obtain ⟨old, present, rfl⟩ := mem_updateMany.mp member'
      have sameId : old.id = row.id := by
        split at same
        · exact passed_id.symm.trans same
        · exact same
      cases List.inj_on_of_nodup_map keyed present member sameId
      split at processing
      next inside =>
        rw [findPending_ids found] at inside
        obtain ⟨other, inBatch, equal⟩ := List.mem_map.mp (of_decide_eq_true inside)
        cases List.inj_on_of_nodup_map keyed (mem_batch inBatch).1 member equal
        rw [sent row inBatch] at processing
        cases processing
      · cases pending.symm.trans processing

/-- With one, nothing happens. -/
theorem isolated_unfound (keyed : (s.outboxEvents.map (·.id)).Nodup) :
    Isolated s s ↔ ∀ row ∈ batch s.outboxEvents, ¬ row.Sendable := by
  constructor
  · intro isolated row inBatch sendable
    obtain ⟨sentAt, present⟩ := isolated.marked row inBatch sendable
    obtain ⟨member, pending⟩ := mem_batch inBatch
    have same := List.inj_on_of_nodup_map keyed present member rfl
    rw [← same] at pending
    cases pending
  · intro unsendable
    refine ⟨⟨[], (List.append_nil _).symm, ?_⟩, ?_, ?_⟩
    · have none : (batch s.outboxEvents).filterMap (·.announcement) = [] :=
        List.filterMap_eq_nil_iff.mpr fun row inBatch =>
          announcement_eq_none (unsendable row inBatch)
      rw [none]
    · exact fun row inBatch sendable => absurd sendable (unsendable row inBatch)
    · intro row member pending row' member' same
      cases List.inj_on_of_nodup_map keyed member' member same
      simp [pending]

/-- A malformed row in the batch ends every cycle, whatever its calls do. -/
theorem malformed_cycle (idle : s.activeExecutions = 0)
    (malformed : ∃ row ∈ batch s.outboxEvents, row.Malformed) :
    Throwing.after ((Cycle.publishPending calls).run s) = s := by
  obtain ⟨error, threw⟩ := findPending_error_iff.mpr malformed
  cases queried : calls.findPending with
  | some error => rw [Cycle.publishPending_rejects idle (Or.inl queried), Throwing.after]
  | none => rw [Cycle.publishPending_rejects idle (Or.inr ⟨queried, threw⟩), Throwing.after]

/-- And nothing is published until somebody changes the table. -/
theorem malformed_cycles (idle : s.activeExecutions = 0)
    (malformed : ∃ row ∈ batch s.outboxEvents, row.Malformed) (cycles : List CycleCalls) :
    cycles.foldl (fun s calls => Throwing.after ((Cycle.publishPending calls).run s)) s = s := by
  induction cycles with
  | nil => rfl
  | cons calls cycles ih => rw [List.foldl_cons, malformed_cycle idle malformed, ih]

end Cycles

/-- **When bad rows do no harm.** A cycle in which no call rejects publishes and marks every
well-formed ORDER_NOTIFICATION row of its batch and leaves none that it claimed PROCESSING exactly
when the batch has no other rows, or when it has a malformed row and no well-formed
ORDER_NOTIFICATION row that this row could block. -/
theorem badRows_isolated_iff (calls : CycleCalls) (faultless : calls.Faultless) (s : CycleState)
    (idle : s.activeExecutions = 0) (keyed : (s.outboxEvents.map (·.id)).Nodup) :
    Isolated s (Throwing.after ((Cycle.publishPending calls).run s)) ↔
      (∀ row ∈ batch s.outboxEvents, row.Sendable) ∨
      ((∃ row ∈ batch s.outboxEvents, row.Malformed) ∧
        ∀ row ∈ batch s.outboxEvents, ¬ row.Sendable) := by
  by_cases malformed : ∃ row ∈ batch s.outboxEvents, row.Malformed
  -- `findPending` throws, and the cycle leaves everything as it was
  · have mixed : ¬ ∀ row ∈ batch s.outboxEvents, row.Sendable := by
      intro sendable
      obtain ⟨row, inBatch, error, threw⟩ := malformed
      obtain ⟨_, event, checked⟩ := sendable row inBatch
      cases threw.symm.trans checked
    rw [malformed_cycle idle malformed, isolated_unfound keyed]
    simp only [mixed, malformed, true_and, false_or]
  -- every row passes the checks, and the loop gets to all of them
  · have checked (row : OutboxEvent) (inBatch : row ∈ batch s.outboxEvents) :
        ∃ event, toPending row = .ok event :=
      (malformed_or_ok row).resolve_left fun bad => malformed ⟨row, inBatch, bad⟩
    obtain ⟨events, found⟩ := Throwing.mapM_returns checked
    rw [publishPending_passes idle faultless.1 keyed found fun event _ => faultless.2 event.id,
      Throwing.after, isolated_found keyed found]
    simp only [malformed, false_and, or_false]

/-- No call rejects. -/
def noFaults : CycleCalls :=
  ⟨none, fun _ => none, fun _ => none, fun _ => none, fun _ => 10, fun _ => 20⟩

theorem noFaults_faultless : noFaults.Faultless := ⟨rfl, fun _ => rfl⟩

def orderRow (id : Nat) : OutboxEvent := create ⟨"ORDER_NOTIFICATION", ⟨7, "a", []⟩⟩ id

def nullRow (id : Nat) : OutboxEvent := { orderRow id with payload := .null }

def stockRow (id : Nat) : OutboxEvent := { orderRow id with type := "STOCK_CHANGED" }

/-- A row without a payload, fetched with a good one. -/
def poisoned : CycleState := ⟨[nullRow 1, orderRow 2], 0, [], []⟩

/-- A row of another type, alone. -/
def foreign : CycleState := ⟨[stockRow 1], 0, [], []⟩

/-- Two good rows. -/
def unpoisoned : CycleState := ⟨[orderRow 1, orderRow 2], 0, [], []⟩

theorem orderRow_isolated :
    Isolated unpoisoned (Throwing.after ((Cycle.publishPending noFaults).run unpoisoned)) := by
  refine (badRows_isolated_iff noFaults noFaults_faultless _ rfl (by decide)).mpr (Or.inl ?_)
  intro row inBatch
  have member := (mem_batch inBatch).1
  simp only [unpoisoned, List.mem_cons, List.not_mem_nil, or_false] at member
  rcases member with rfl | rfl <;> exact ⟨rfl, _, toPending_create _ _⟩

/-- The good row is not published, and the row of the other type stays PROCESSING. -/
theorem badRows_not_isolated :
    ¬ Isolated poisoned (Throwing.after ((Cycle.publishPending noFaults).run poisoned)) ∧
    ¬ Isolated foreign (Throwing.after ((Cycle.publishPending noFaults).run foreign)) := by
  constructor
  · have malformed : ∃ row ∈ batch poisoned.outboxEvents, row.Malformed :=
      ⟨nullRow 1, by decide +kernel, _, rfl⟩
    rw [malformed_cycle rfl malformed, isolated_unfound (by decide)]
    exact fun unsendable => unsendable (orderRow 2) (by decide +kernel) ⟨rfl, _, rfl⟩
  · have found : findPending foreign.outboxEvents OutboxPublisherService.batchSize =
        .ok [⟨1, "STOCK_CHANGED", ⟨7, "a", []⟩⟩] := rfl
    rw [publishPending_passes rfl rfl (by decide) found fun _ _ => rfl, Throwing.after,
      isolated_found (by decide) found]
    exact fun sendable => absurd (sendable (stockRow 1) (by decide +kernel)).1 (by decide)

end FlashSaleLab
