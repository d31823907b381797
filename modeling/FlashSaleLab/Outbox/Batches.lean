import FlashSaleLab.Outbox.Cycle
import FlashSaleLab.Outbox.Rows

/-!
# The batch of a cycle

What the loop of `publishPending` leaves in the table and with the broker, up to the first call that
rejects: `publishPending_exact`. Nobody else writes to the table.
-/
namespace FlashSaleLab

open PrismaOutboxRepository

/-- The PENDING rows in the order in which they are fetched. -/
def pendingRows (rows : List OutboxEvent) : List OutboxEvent :=
  (rows.filter (·.status = .pending)).insertionSort (·.id ≤ ·.id)

/-- The rows that a cycle fetches. -/
def batch (rows : List OutboxEvent) : List OutboxEvent :=
  (pendingRows rows).take OutboxPublisherService.batchSize

section Fetched

variable {rows : List OutboxEvent} {row : OutboxEvent} {events : List PendingOutboxEvent}

theorem mem_pendingRows : row ∈ pendingRows rows ↔ row ∈ rows ∧ row.status = .pending := by
  simp [pendingRows, List.mem_insertionSort]

theorem pendingRows_keyed (keyed : (rows.map (·.id)).Nodup) :
    ((pendingRows rows).map (·.id)).Nodup := by
  have sorted : List.Perm (pendingRows rows) (rows.filter (·.status = .pending)) :=
    List.perm_insertionSort _ _
  refine ((sorted.map (·.id)).nodup_iff).mpr ?_
  exact keyed.sublist (List.filter_sublist.map _)

theorem pendingRows_sorted (keyed : (rows.map (·.id)).Nodup) :
    (pendingRows rows).Pairwise (·.id < ·.id) := by
  have ordered : (pendingRows rows).Pairwise (·.id ≤ ·.id) := List.pairwise_insertionSort _ _
  have different := List.pairwise_map.mp (pendingRows_keyed keyed)
  exact (ordered.and different).imp fun both => lt_of_le_of_ne both.1 both.2

theorem mem_batch (member : row ∈ batch rows) : row ∈ rows ∧ row.status = .pending :=
  mem_pendingRows.mp (List.mem_of_mem_take member)

theorem batch_keyed (keyed : (rows.map (·.id)).Nodup) : ((batch rows).map (·.id)).Nodup :=
  (pendingRows_keyed keyed).sublist ((List.take_sublist _ _).map _)

/-- `findPending` checks the rows of the batch one by one. -/
theorem findPending_batch :
    findPending rows OutboxPublisherService.batchSize = .ok events ↔
      List.Forall₂ (fun row event => toPending row = .ok event) (batch rows) events :=
  Throwing.mapM_eq_ok

theorem findPending_ids (found : findPending rows OutboxPublisherService.batchSize = .ok events) :
    events.map (·.id) = (batch rows).map (·.id) := by
  have all := findPending_batch.mp found
  clear found
  generalize batch rows = fetched at all
  induction all with
  | nil => rfl
  | cons checked _ ih => simp [(toPending_ok checked).1, ih]

end Fetched

/-- A row whose event the loop has been through. -/
def OutboxEvent.passed (calls : CycleCalls) (row : OutboxEvent) : OutboxEvent :=
  if row.type = "ORDER_NOTIFICATION" then row.markedSent (calls.sentAt row.id)
  else row.claimed (calls.claimedAt row.id)

/-- The table with the loop through the events of these ids. -/
def passedRows (calls : CycleCalls) (ids : List Nat) (rows : List OutboxEvent) :
    List OutboxEvent :=
  (updateMany rows (·.id ∈ ids) (·.passed calls)).1

/-- What is published for the events. -/
def notifications (events : List PendingOutboxEvent) : List Message :=
  (events.filter (·.type = "ORDER_NOTIFICATION")).map (·.message)

/-- The state with the loop through `done`. -/
def CycleState.passed (calls : CycleCalls) (s : CycleState) (done : List PendingOutboxEvent) :
    CycleState :=
  { s with
    outboxEvents := passedRows calls (done.map (·.id)) s.outboxEvents
    sent := s.sent ++ notifications done
    confirmed := s.confirmed ++ notifications done }

/-- The awaited calls of the loop. -/
inductive CallSite where
  | claim
  | publish
  | markAsSent
  deriving DecidableEq

/-- The first of the calls for an event that rejects, and its error. -/
def CycleCalls.firstRejection (calls : CycleCalls) (id : Nat) : Option (CallSite × String) :=
  match calls.claim id, calls.publish id, calls.markAsSent id with
  | some error, _, _ => some (.claim, error)
  | none, some fault, _ => some (.publish, fault.error)
  | none, none, some error => some (.markAsSent, error)
  | none, none, none => none

theorem firstRejection_none {calls : CycleCalls} {id : Nat} :
    calls.firstRejection id = none ↔
      calls.claim id = none ∧ calls.publish id = none ∧ calls.markAsSent id = none := by
  unfold CycleCalls.firstRejection
  cases calls.claim id <;> cases calls.publish id <;> cases calls.markAsSent id <;> simp

/-- No call of a cycle rejects. -/
def CycleCalls.Faultless (calls : CycleCalls) : Prop :=
  calls.findPending = none ∧ ∀ id, calls.firstRejection id = none

section Writes

variable {rows : List OutboxEvent} {row : OutboxEvent} {calls : CycleCalls} {ids : List Nat}

theorem passed_id : (row.passed calls).id = row.id := by
  unfold OutboxEvent.passed
  split <;> rfl

theorem passedRows_keyed (keyed : (rows.map (·.id)).Nodup) :
    ((passedRows calls ids rows).map (·.id)).Nodup := by
  rw [passedRows, updateMany_map fun row => passed_id]
  exact keyed

theorem passedRows_nil : passedRows calls [] rows = rows := by
  simp [passedRows, updateMany]

/-- The loop has not been at the row yet. -/
theorem mem_passedRows (member : row ∈ rows) (fresh : row.id ∉ ids) :
    row ∈ passedRows calls ids rows :=
  mem_updateMany.mpr ⟨row, member, by simp [fresh]⟩

/-- The claim of a PENDING row wins, and writes to that row alone. -/
theorem claim_pending (keyed : (rows.map (·.id)).Nodup) (member : row ∈ rows)
    (pending : row.status = .pending) (startedAt : Time) :
    claim rows row.id startedAt =
      ((updateMany rows (·.id = row.id) (·.claimed startedAt)).1, true) := by
  have matched : 0 < rows.countP fun other => other.id = row.id ∧ other.status = .pending :=
    List.countP_pos_iff.mpr ⟨row, member, by simp [pending]⟩
  -- `claim` counts the rows it updated, and there is no second one of this id
  have few := (countP_id_le_one keyed : rows.countP (fun other => other.id = row.id ∧
    other.status = .pending) ≤ 1)
  refine Prod.ext ?_ ?_
  · refine List.map_congr_left fun other inside => ?_
    by_cases same : other.id = row.id
    · rw [List.inj_on_of_nodup_map keyed inside member same]
      simp [pending, OutboxEvent.claimed]
    · simp [same]
  · simp only [claim, updateMany, decide_eq_true_eq]
    omega

theorem markAsSent_present (member : row ∈ rows) (sentAt : Time) :
    markAsSent rows row.id sentAt =
      some (updateMany rows (·.id = row.id) (·.markedSent sentAt)).1 := by
  rw [markAsSent, if_pos (List.any_eq_true.mpr ⟨row, member, by simp⟩)]
  rfl

/-- Two updates of one row. -/
theorem updateMany_twice {id : Nat} {first second : OutboxEvent → OutboxEvent}
    (kept : ∀ row, (first row).id = row.id) :
    (updateMany (updateMany rows (·.id = id) first).1 (·.id = id) second).1 =
      (updateMany rows (·.id = id) (second ∘ first)).1 := by
  simp only [updateMany, List.map_map]
  refine List.map_congr_left fun row _ => ?_
  by_cases same : row.id = id <;> simp [same, kept]

/-- The loop goes through one more event. -/
theorem passedRows_snoc (data : OutboxEvent → OutboxEvent) (keyed : (rows.map (·.id)).Nodup)
    (member : row ∈ rows) (fresh : row.id ∉ ids) (written : data row = row.passed calls) :
    (updateMany (passedRows calls ids rows) (·.id = row.id) data).1 =
      passedRows calls (ids ++ [row.id]) rows := by
  simp only [passedRows, updateMany, List.map_map]
  -- row by row: the row itself, one passed before, or any other
  refine List.map_congr_left fun other inside => ?_
  by_cases same : other.id = row.id
  · rw [List.inj_on_of_nodup_map keyed inside member same]
    simp [fresh, written]
  · by_cases before : other.id ∈ ids <;> simp [before, same, passed_id]

end Writes

theorem notifications_snoc_own {done : List PendingOutboxEvent} {event : PendingOutboxEvent}
    (own : event.type = "ORDER_NOTIFICATION") :
    notifications (done ++ [event]) = notifications done ++ [event.message] := by
  simp [notifications, List.filter_append, own]

theorem notifications_snoc_foreign {done : List PendingOutboxEvent} {event : PendingOutboxEvent}
    (other : event.type ≠ "ORDER_NOTIFICATION") :
    notifications (done ++ [event]) = notifications done := by
  simp [notifications, List.filter_append, other]

/-- The table with the loop through the events of these ids, and the row of the next one claimed. -/
def claimedRows (calls : CycleCalls) (ids : List Nat) (id : Nat) (rows : List OutboxEvent) :
    List OutboxEvent :=
  (updateMany (passedRows calls ids rows) (·.id = id) (·.claimed (calls.claimedAt id))).1

section Body

variable {calls : CycleCalls} {s : CycleState} {row : OutboxEvent} {event : PendingOutboxEvent}
  {done : List PendingOutboxEvent}

/-- Nobody has taken the row of the next event. -/
theorem claim_next (keyed : (s.outboxEvents.map (·.id)).Nodup) (member : row ∈ s.outboxEvents)
    (pending : row.status = .pending) (fresh : row.id ∉ done.map (·.id)) :
    claim (s.passed calls done).outboxEvents row.id (calls.claimedAt row.id) =
      (claimedRows calls (done.map (·.id)) row.id s.outboxEvents, true) :=
  claim_pending (passedRows_keyed keyed) (mem_passedRows member fresh) pending _

theorem afterClaim_next (calls : CycleCalls) (keyed : (s.outboxEvents.map (·.id)).Nodup)
    (member : row ∈ s.outboxEvents) (pending : row.status = .pending)
    (fresh : row.id ∉ done.map (·.id)) :
    Cycle.afterClaim calls row.id (s.passed calls done) =
      { s.passed calls done with
        outboxEvents := claimedRows calls (done.map (·.id)) row.id s.outboxEvents } := by
  rw [Cycle.afterClaim, claim_next keyed member pending fresh]

/-- And the claim keeps it there. -/
theorem mark_next (member : row ∈ s.outboxEvents) (fresh : row.id ∉ done.map (·.id)) :
    markAsSent (claimedRows calls (done.map (·.id)) row.id s.outboxEvents) row.id
        (calls.sentAt row.id) =
      some (updateMany (passedRows calls (done.map (·.id)) s.outboxEvents) (·.id = row.id)
        (·.markedSent (calls.sentAt row.id))).1 := by
  have present : row.claimed (calls.claimedAt row.id) ∈
      claimedRows calls (done.map (·.id)) row.id s.outboxEvents :=
    mem_updateMany.mpr ⟨row, mem_passedRows member fresh, by simp⟩
  refine (markAsSent_present present (calls.sentAt row.id)).trans (congrArg some ?_)
  exact updateMany_twice fun _ => rfl

/-- No call for the event rejects. -/
theorem publishEvent_passes (keyed : (s.outboxEvents.map (·.id)).Nodup)
    (member : row ∈ s.outboxEvents) (pending : row.status = .pending)
    (checked : toPending row = .ok event) (fresh : event.id ∉ done.map (·.id))
    (clear : calls.firstRejection event.id = none) :
    (Cycle.publishEvent calls event).run (s.passed calls done) =
      .ok () (s.passed calls (done ++ [event])) := by
  obtain ⟨claims, publishes, marks⟩ := firstRejection_none.mp clear
  have run := Cycle.publishEvent_run calls event (s.passed calls done)
  generalize (Cycle.publishEvent calls event).run (s.passed calls done) = result at run ⊢
  obtain ⟨id, type, payload⟩ := event
  obtain ⟨rfl, rfl, -⟩ := toPending_ok checked
  have claimed := afterClaim_next calls keyed member pending fresh
  -- no call rejects, and the claim wins, since the row is still PENDING
  cases run with
  | claimRejected error rejects => cases claims.symm.trans rejects
  | missed _ lost =>
    rw [claim_next keyed member pending fresh] at lost
    cases lost
  | foreign _ _ other =>
    have left : row.claimed (calls.claimedAt row.id) = row.passed calls := (if_neg other).symm
    have rows := passedRows_snoc (·.claimed (calls.claimedAt row.id)) keyed member fresh left
    rw [claimed, claimedRows, rows]
    simp [CycleState.passed, notifications_snoc_foreign other]
  | publishRejected fault _ _ _ rejects => cases publishes.symm.trans rejects
  | markRejected error _ _ _ _ rejects => cases marks.symm.trans rejects
  | unmarked error _ _ _ _ _ missing =>
    rw [claimed] at missing
    cases (mark_next member fresh).symm.trans missing
  | published rows _ _ own _ _ updated =>
    have left : row.markedSent (calls.sentAt row.id) = row.passed calls := (if_pos own).symm
    have last := passedRows_snoc (·.markedSent (calls.sentAt row.id)) keyed member fresh left
    rw [claimed] at updated ⊢
    cases (mark_next member fresh).symm.trans updated
    rw [last]
    simp [CycleState.passed, Cycle.afterConfirm, notifications_snoc_own own]

/-- The table when a call for the next event rejects. -/
def stoppedRows (calls : CycleCalls) (ids : List Nat) (id : Nat) (rows : List OutboxEvent) :
    CallSite → List OutboxEvent
  | .claim => passedRows calls ids rows
  | _ => claimedRows calls ids id rows

/-- What of the event has been confirmed by then. -/
def CallSite.confirmed (site : CallSite) (message : Message) : List Message :=
  if site = .markAsSent then [message] else []

/-- A call for the event rejects. -/
theorem publishEvent_stops (keyed : (s.outboxEvents.map (·.id)).Nodup)
    (member : row ∈ s.outboxEvents) (pending : row.status = .pending)
    (checked : toPending row = .ok event) (fresh : event.id ∉ done.map (·.id))
    (own : event.type = "ORDER_NOTIFICATION") {site : CallSite} {error : String}
    (rejects : calls.firstRejection event.id = some (site, error)) :
    ∃ sent, (Cycle.publishEvent calls event).run (s.passed calls done) =
      .error error { s with
        outboxEvents := stoppedRows calls (done.map (·.id)) event.id s.outboxEvents site
        sent
        confirmed := s.confirmed ++ notifications done ++ site.confirmed event.message } := by
  have run := Cycle.publishEvent_run calls event (s.passed calls done)
  generalize (Cycle.publishEvent calls event).run (s.passed calls done) = result at run ⊢
  obtain ⟨id, type, payload⟩ := event
  obtain ⟨rfl, rfl, -⟩ := toPending_ok checked
  have claimed := afterClaim_next calls keyed member pending fresh
  -- the run says which call ended the body, and that is the first that rejects
  unfold CycleCalls.firstRejection at rejects
  cases run with
  | claimRejected text refused =>
    simp only [refused, Option.some.injEq, Prod.mk.injEq] at rejects
    obtain ⟨rfl, rfl⟩ := rejects
    exact ⟨_, by simp [CycleState.passed, stoppedRows, CallSite.confirmed]; rfl⟩
  | missed _ lost =>
    rw [claim_next keyed member pending fresh] at lost
    cases lost
  | foreign _ _ other => exact absurd own other
  | publishRejected fault claims _ _ refused =>
    simp only [claims, refused, Option.some.injEq, Prod.mk.injEq] at rejects
    obtain ⟨rfl, rfl⟩ := rejects
    rw [claimed]
    cases fault <;> exact ⟨_, by simp [CycleState.passed, stoppedRows, CallSite.confirmed,
      Cycle.afterFault, Cycle.afterSend]; rfl⟩
  | markRejected text claims _ _ publishes refused =>
    simp only [claims, publishes, refused, Option.some.injEq, Prod.mk.injEq] at rejects
    obtain ⟨rfl, rfl⟩ := rejects
    rw [claimed]
    exact ⟨_, by simp [CycleState.passed, stoppedRows, CallSite.confirmed, Cycle.afterConfirm]; rfl⟩
  | unmarked text claims _ _ publishes marks | published rows claims _ _ publishes marks =>
    simp [claims, publishes, marks] at rejects

end Body

section Loop

variable {calls : CycleCalls} {s : CycleState} {events : List PendingOutboxEvent}

/-- An event of the batch comes from a PENDING row that the loop has not been at. -/
theorem next_event (keyed : (s.outboxEvents.map (·.id)).Nodup)
    (found : findPending s.outboxEvents OutboxPublisherService.batchSize = .ok events)
    {before rest : List PendingOutboxEvent} {event : PendingOutboxEvent}
    (split : events = before ++ event :: rest) :
    event.id ∉ before.map (·.id) ∧
      ∃ row ∈ batch s.outboxEvents, toPending row = .ok event ∧ row.id = event.id := by
  have ids := batch_keyed keyed
  rw [← findPending_ids found, split, List.map_append, List.nodup_append] at ids
  -- an id occurs once in the batch
  refine ⟨fun inside => ids.2.2 _ inside event.id (by simp) rfl, ?_⟩
  obtain ⟨row, member, checked⟩ := Throwing.mapM_source found (show event ∈ events by simp [split])
  exact ⟨row, member, checked, (toPending_ok checked).1.symm⟩

theorem event_passes (s : CycleState) (keyed : (s.outboxEvents.map (·.id)).Nodup)
    (found : findPending s.outboxEvents OutboxPublisherService.batchSize = .ok events)
    {before : List PendingOutboxEvent} {event : PendingOutboxEvent}
    (rest : List PendingOutboxEvent) (split : events = before ++ event :: rest)
    (clear : calls.firstRejection event.id = none) :
    (Cycle.publishEvent calls event).run (s.passed calls before) =
      .ok () (s.passed calls (before ++ [event])) := by
  obtain ⟨fresh, row, inBatch, checked, same⟩ := next_event keyed found split
  obtain ⟨member, pending⟩ := mem_batch inBatch
  exact publishEvent_passes keyed member pending checked fresh clear

theorem passed_nil : s.passed calls [] = s := by
  simp [CycleState.passed, notifications, passedRows_nil]

/-- No call for an event of the batch rejects. -/
theorem publishPending_passes (idle : s.activeExecutions = 0) (queried : calls.findPending = none)
    (keyed : (s.outboxEvents.map (·.id)).Nodup)
    (found : findPending s.outboxEvents OutboxPublisherService.batchSize = .ok events)
    (clear : ∀ event ∈ events, calls.firstRejection event.id = none) :
    (Cycle.publishPending calls).run s = .ok () (s.passed calls events) := by
  have loop := Throwing.run_forM (Cycle.publishEvent calls)
    (CycleState.passed calls { s with activeExecutions := 1 }) events fun before event rest split =>
      event_passes { s with activeExecutions := 1 } keyed found rest split
        (clear event (by simp [split]))
  -- the loop starts with nothing passed, and the `finally` resets the counter
  rw [passed_nil] at loop
  rw [Cycle.publishPending_run idle queried found, loop]
  simp [Cycle.finished, CycleState.passed, idle]

/-- The calls for `before` succeed, and one for the next event rejects. -/
theorem publishPending_stops (idle : s.activeExecutions = 0) (queried : calls.findPending = none)
    (keyed : (s.outboxEvents.map (·.id)).Nodup)
    (found : findPending s.outboxEvents OutboxPublisherService.batchSize = .ok events)
    {before rest : List PendingOutboxEvent} {event : PendingOutboxEvent}
    (split : events = before ++ event :: rest) (own : event.type = "ORDER_NOTIFICATION")
    (clear : ∀ earlier ∈ before, calls.firstRejection earlier.id = none)
    {site : CallSite} {error : String}
    (rejects : calls.firstRejection event.id = some (site, error)) :
    ∃ sent, (Cycle.publishPending calls).run s = .error error { s with
      outboxEvents := stoppedRows calls (before.map (·.id)) event.id s.outboxEvents site
      sent
      confirmed := s.confirmed ++ notifications before ++ site.confirmed event.message } := by
  obtain ⟨fresh, row, inBatch, checked, same⟩ := next_event keyed found split
  obtain ⟨member, pending⟩ := mem_batch inBatch
  obtain ⟨sent, stops⟩ := publishEvent_stops (s := { s with activeExecutions := 1 }) keyed member
    pending checked fresh own rejects
  have loop := Throwing.run_forM_throws (Cycle.publishEvent calls)
    (CycleState.passed calls { s with activeExecutions := 1 }) rest
    (fun first next others divided =>
      event_passes { s with activeExecutions := 1 } keyed found (others ++ event :: rest)
        (by rw [split, divided, List.append_assoc, List.cons_append])
        (clear next (by simp [divided]))) stops
  rw [passed_nil] at loop
  rw [Cycle.publishPending_run idle queried found, split, loop]
  exact ⟨sent, by simp [Cycle.finished, idle]⟩

end Loop

end FlashSaleLab
