import FlashSaleLab.Foundations.Throwing
import FlashSaleLab.System

/-!
# The outbox table

The table under any sequence of repository calls, whoever makes them: `outboxTable`. `RowStep`
is everything a call can do to the row of one event and to what was noted down about it.
-/
namespace FlashSaleLab

open PrismaOutboxRepository Transition

section Rows

variable {rows : List OutboxEvent} {row : OutboxEvent} {id : Nat} {startedAt now : Time}

theorem countP_id_le_one (nodup : (rows.map (·.id)).Nodup) :
    rows.countP (fun row => row.id = id ∧ row.status = .pending) ≤ 1 := by
  calc rows.countP (fun row => row.id = id ∧ row.status = .pending)
      ≤ rows.countP (fun row => row.id = id) :=
        List.countP_mono_left fun row _ both => by simp_all
    _ = (rows.map (·.id)).count id := by
        rw [List.count, List.countP_map]
        exact List.countP_congr fun row _ => by simp
    _ ≤ 1 := List.nodup_iff_count_le_one.mp nodup id

/-- A claim that did not win changed nothing. -/
theorem claim_missed (nodup : (rows.map (·.id)).Nodup)
    (missed : (claim rows id startedAt).2 = false) : (claim rows id startedAt).1 = rows := by
  have few : rows.countP (fun row => row.id = id ∧ row.status = .pending) ≤ 1 :=
    countP_id_le_one nodup
  simp only [claim, updateMany, decide_eq_false_iff_not] at missed ⊢
  -- at most one row can match, and the count is not 1
  have none : rows.countP (fun row => row.id = id ∧ row.status = .pending) = 0 := by omega
  rw [List.countP_eq_zero] at none
  refine (List.map_congr_left fun row member => ?_).trans (List.map_id' rows)
  exact if_neg (none row member)

theorem claim_won (won : (claim rows id startedAt).2 = true) :
    ∃ row ∈ rows, row.id = id ∧ row.status = .pending := by
  simp only [claim, updateMany, decide_eq_true_eq] at won
  obtain ⟨row, member, both⟩ := List.countP_pos_iff.mp (won ▸ Nat.one_pos)
  exact ⟨row, member, by simpa using both⟩

theorem markAsSent_eq_some {rows' : List OutboxEvent} {sentAt : Time}
    (marked : markAsSent rows id sentAt = some rows') :
    rows' = (updateMany rows (·.id = id) fun event =>
      { event with status := .sent, sentAt := some sentAt, processingStartedAt := none }).1 := by
  unfold markAsSent at marked
  split at marked
  · exact (Option.some.inj marked).symm
  · cases marked

/-- What `findPending` returns was PENDING and passed the checks. -/
theorem mem_findPending {limit : Nat} {pending : List PendingOutboxEvent}
    (found : findPending rows limit = .ok pending) {event : PendingOutboxEvent}
    (member : event ∈ pending) :
    ∃ row ∈ rows, row.status = .pending ∧ toPending row = .ok event := by
  obtain ⟨row, inBatch, checked⟩ := Throwing.mapM_source found member
  have sorted := List.mem_of_mem_take inBatch
  rw [List.mem_insertionSort, List.mem_filter, decide_eq_true_eq] at sorted
  exact ⟨row, sorted.1, sorted.2, checked⟩

end Rows

/-- The committed row of an event. -/
def rowOf (rows : List OutboxEvent) (id : Nat) : Option OutboxEvent := rows.find? (·.id = id)

def OutboxEvent.claimed (row : OutboxEvent) (startedAt : Time) : OutboxEvent :=
  { row with status := .processing, processingStartedAt := some startedAt }

def OutboxEvent.markedSent (row : OutboxEvent) (sentAt : Time) : OutboxEvent :=
  { row with status := .sent, sentAt := some sentAt, processingStartedAt := none }

def OutboxEvent.recovered (row : OutboxEvent) : OutboxEvent :=
  { row with status := .pending, processingStartedAt := none }

section Lookup

variable {rows : List OutboxEvent} {row : OutboxEvent} {id e : Nat}

theorem rowOf_some (found : rowOf rows id = some row) : row ∈ rows ∧ row.id = id :=
  ⟨List.mem_of_find?_eq_some found, by simpa using List.find?_some found⟩

theorem rowOf_mem (nodup : (rows.map (·.id)).Nodup) (member : row ∈ rows) :
    rowOf rows row.id = some row := by
  cases found : rowOf rows row.id with
  | none =>
    have absent := List.find?_eq_none.mp found row member
    simp at absent
  | some other =>
    obtain ⟨present, same⟩ := rowOf_some found
    rw [List.inj_on_of_nodup_map nodup present member same]

theorem rowOf_updateMany {cond : OutboxEvent → Bool} {data : OutboxEvent → OutboxEvent}
    (kept : ∀ row, (data row).id = row.id) :
    rowOf (updateMany rows cond data).1 e =
      (rowOf rows e).map fun row => if cond row then data row else row := by
  simp only [rowOf, updateMany, List.find?_map]
  congr 2
  funext row
  simp only [Function.comp]
  split
  · rw [kept row]
  · rfl

theorem rowOf_insert {new : OutboxEvent} :
    rowOf (rows ++ [new]) e = rowOf rows e ∨
      (rowOf rows e = none ∧ rowOf (rows ++ [new]) e = some new) := by
  unfold rowOf
  rw [List.find?_append]
  cases rows.find? (·.id = e) with
  | some row => exact Or.inl rfl
  | none =>
    by_cases same : new.id = e
    · exact Or.inr ⟨rfl, by simp [same]⟩
    · exact Or.inl (by simp [same])

end Lookup

/-- The entry is about the row of event `e`. A publication is not: it leaves the row as it is. -/
def Event.writes (e : Nat) : Event → Bool
  | .claimed event _ => event = e
  | .claimLost event _ => event = e
  | .markedSent event _ => event = e
  | .recovered event => event = e
  | _ => false

/-- The committed rows, and the claims, sendings and recoveries so far, newest first. -/
structure OutboxTable where
  now : Time
  rows : List OutboxEvent
  log : List Event

/-- A call takes effect. A claim carries the `new Date()` of its caller; `replied` tells whether
the caller got the answer. `create` runs with the committing transaction. -/
inductive OutboxCall where
  | elapse (time : Time)
  | create (input : CreateOutboxEventInput) (id : Nat)
  | claim (id : Nat) (startedAt : Time) (replied : Bool)
  | markAsSent (id : Nat) (sentAt : Time)
  | recoverStuckProcessing (calledAt : Time)

namespace OutboxTable

def call (table : OutboxTable) : OutboxCall → Option OutboxTable
  | .elapse time => some { table with now := table.now + time }
  | .create input id =>
    if id ∈ table.rows.map (·.id) then none
    else some { table with rows := table.rows ++ [PrismaOutboxRepository.create input id] }
  | .claim id startedAt replied =>
    if startedAt ≤ table.now then
      let update := PrismaOutboxRepository.claim table.rows id startedAt
      let event : Event := if replied then .claimed id startedAt else .claimLost id startedAt
      some { table with
        rows := update.1
        log := if update.2 then event :: table.log else table.log }
    else none
  | .markAsSent id sentAt =>
    match PrismaOutboxRepository.markAsSent table.rows id sentAt with
    | some rows => some { table with rows, log := .markedSent id table.now :: table.log }
    | none => none
  | .recoverStuckProcessing calledAt =>
    if calledAt ≤ table.now then
      some { table with
        rows := (PrismaOutboxRepository.recoverStuckProcessing table.rows calledAt).1
        log := (table.rows.filter (stuck calledAt)).map (fun event => .recovered event.id) ++
          table.log }
    else none

def row (table : OutboxTable) (e : Nat) : Option OutboxEvent := rowOf table.rows e

/-- What happened to the row of `e`, newest first. -/
def logOf (table : OutboxTable) (e : Nat) : List Event := table.log.filter (·.writes e)

end OutboxTable

/-- All sequences of calls from an empty table. -/
def outboxTable : System OutboxTable OutboxCall where
  init table := table = ⟨0, [], []⟩
  step := OutboxTable.call

def anyCall (_ : OutboxTable) (_ : OutboxCall) : Prop := True

/-- What a step taken at `now` does to a row and to its log. -/
inductive RowStep (e : Nat) (now : Time) (row : Option OutboxEvent) (log : List Event) :
    Option OutboxEvent → List Event → Prop
  | kept : RowStep e now row log row log
  | inserted (new : OutboxEvent) (absent : row = none) (pending : new.status = .pending)
      (unstarted : new.processingStartedAt = none) (unsent : new.sentAt = none) :
      RowStep e now row log (some new) log
  | claimed (old : OutboxEvent) (startedAt : Time) (found : row = some old)
      (pending : old.status = .pending) (past : startedAt ≤ now) (event : Event)
      (noted : event = .claimed e startedAt ∨ event = .claimLost e startedAt) :
      RowStep e now row log (some (old.claimed startedAt)) (event :: log)
  | markedSent (old : OutboxEvent) (sentAt : Time) (found : row = some old) :
      RowStep e now row log (some (old.markedSent sentAt)) (.markedSent e now :: log)
  | recovered (old : OutboxEvent) (startedAt : Time) (found : row = some old)
      (processing : old.status = .processing) (started : old.processingStartedAt = some startedAt)
      (elapsed : startedAt + 30000 < now) :
      RowStep e now row log (some old.recovered) (.recovered e :: log)

theorem stuck_iff {now : Time} {row : OutboxEvent} :
    stuck now row = true ↔ row.status = .processing ∧
      ∃ startedAt, row.processingStartedAt = some startedAt ∧ startedAt + 30000 < now := by
  unfold stuck
  cases row.processingStartedAt <;> simp

section RowSteps

variable {rows : List OutboxEvent} {e id : Nat} {startedAt sentAt now calledAt : Time}
  {log : List Event}

theorem rowOf_claim : rowOf (claim rows id startedAt).1 e =
    (rowOf rows e).map fun row =>
      if row.id = id ∧ row.status = .pending then row.claimed startedAt else row := by
  simp only [claim]
  rw [rowOf_updateMany]
  · simp only [decide_eq_true_eq, OutboxEvent.claimed]
  · exact fun _ => rfl

/-- A claim that won took the PENDING row of its event and no other. -/
theorem claim_rowStep (nodup : (rows.map (·.id)).Nodup) (past : startedAt ≤ now)
    (won : (claim rows id startedAt).2 = true) {event : Event}
    (noted : event = .claimed id startedAt ∨ event = .claimLost id startedAt) :
    RowStep e now (rowOf rows e) (log.filter (·.writes e)) (rowOf (claim rows id startedAt).1 e)
      ((event :: log).filter (·.writes e)) := by
  obtain ⟨row, member, sameId, pending⟩ := claim_won won
  rw [rowOf_claim]
  by_cases same : id = e
  · subst same
    have found := rowOf_mem nodup member
    rw [sameId] at found
    have written : (event :: log).filter (·.writes id) = event :: log.filter (·.writes id) := by
      rcases noted with rfl | rfl <;> simp [Event.writes]
    rw [found, written, Option.map_some, if_pos ⟨sameId, pending⟩]
    exact .claimed row startedAt rfl pending past event noted
  · -- the row of another event, and its log
    have silent : (event :: log).filter (·.writes e) = log.filter (·.writes e) := by
      rcases noted with rfl | rfl <;> simp [Event.writes, same]
    have unchanged : ((rowOf rows e).map fun row =>
        if row.id = id ∧ row.status = .pending then row.claimed startedAt else row) =
        rowOf rows e := by
      cases found : rowOf rows e with
      | none => rfl
      | some other =>
        rw [Option.map_some, if_neg]
        rintro ⟨equal, _⟩
        exact same (equal.symm.trans (rowOf_some found).2)
    rw [silent, unchanged]
    exact .kept

theorem markAsSent_rowStep {rows' : List OutboxEvent}
    (marked : markAsSent rows id sentAt = some rows') :
    RowStep e now (rowOf rows e) (log.filter (·.writes e)) (rowOf rows' e)
      ((Event.markedSent id now :: log).filter (·.writes e)) := by
  have present : rows.any (·.id = id) = true := by
    by_contra absent
    simp [markAsSent, absent] at marked
  rw [markAsSent_eq_some marked, rowOf_updateMany (by exact fun _ => rfl)]
  cases found : rowOf rows e with
  | none =>
    -- `update` found its row, so it is not the row of `e`
    have other : id ≠ e := by
      rintro rfl
      obtain ⟨row, member, same⟩ := List.any_eq_true.mp present
      exact List.find?_eq_none.mp found row member same
    simp only [Event.writes, other, decide_false, List.filter_cons]
    exact .kept
  | some old =>
    by_cases same : id = e
    · subst same
      have written : (Event.markedSent id now :: log).filter (·.writes id) =
          .markedSent id now :: log.filter (·.writes id) := by
        simp [Event.writes]
      rw [written, Option.map_some, if_pos (by simpa using (rowOf_some found).2)]
      exact .markedSent old sentAt rfl
    · have silent : (Event.markedSent id now :: log).filter (·.writes e) =
          log.filter (·.writes e) := by
        simp [Event.writes, same]
      rw [silent, Option.map_some, if_neg]
      · exact .kept
      · simp only [decide_eq_true_eq]
        exact fun equal => same (equal.symm.trans (rowOf_some found).2)

/-- The recovery notes each row it moves once. -/
theorem recovered_log (nodup : (rows.map (·.id)).Nodup) :
    ((rows.filter (stuck calledAt)).map fun event => Event.recovered event.id).filter
      (·.writes e) =
    match rowOf rows e with
    | some row => if stuck calledAt row then [.recovered e] else []
    | none => [] := by
  induction rows with
  | nil => rfl
  | cons head rest ih =>
    rw [List.map_cons, List.nodup_cons] at nodup
    by_cases same : head.id = e
    · subst same
      -- the head is the row of `e`, and no other row is
      have absent : rowOf rest head.id = none := by
        refine List.find?_eq_none.mpr fun row member => ?_
        simp only [decide_eq_true_eq]
        exact fun equal => nodup.1 (equal ▸ List.mem_map_of_mem member)
      have found : rowOf (head :: rest) head.id = some head := by simp [rowOf]
      have tail := ih nodup.2
      rw [absent] at tail
      rw [found, List.filter_cons]
      by_cases moved : stuck calledAt head = true
      · rw [if_pos moved, List.map_cons, List.filter_cons, if_pos (by simp [Event.writes]), tail]
        simp [moved]
      · rw [if_neg moved, tail]
        simp [moved]
    · have skipped : rowOf (head :: rest) e = rowOf rest e := by simp [rowOf, same]
      rw [skipped, ← ih nodup.2, List.filter_cons]
      split
      · simp [Event.writes, same]
      · rfl

theorem recover_rowStep (nodup : (rows.map (·.id)).Nodup) (past : calledAt ≤ now) :
    RowStep e now (rowOf rows e) log (rowOf (recoverStuckProcessing rows calledAt).1 e)
      (((rows.filter (stuck calledAt)).map fun event => Event.recovered event.id).filter
        (·.writes e) ++ log) := by
  rw [recovered_log nodup, recoverStuckProcessing, rowOf_updateMany (by exact fun _ => rfl)]
  cases found : rowOf rows e with
  | none => exact .kept
  | some row =>
    by_cases moved : stuck calledAt row = true
    · obtain ⟨processing, startedAt, started, elapsed⟩ := stuck_iff.mp moved
      simp only [Option.map_some, if_pos moved]
      exact .recovered row startedAt rfl processing started (elapsed.trans_le past)
    · simp only [Option.map_some, if_neg moved]
      exact .kept

end RowSteps

/-- Where the row of `e` stands: its timestamps follow its status, and an
event without a row has no log. -/
structure RowInv (e : Nat) (now : Time) (row : Option OutboxEvent) (log : List Event) : Prop where
  absent : row = none → log = []
  processing : ∀ r, row = some r → (r.status = .processing ↔ r.processingStartedAt ≠ none)
  sent : ∀ r, row = some r → (r.status = .sent ↔ r.sentAt ≠ none)
  past : ∀ r startedAt, row = some r → r.processingStartedAt = some startedAt → startedAt ≤ now

theorem RowInv.step {e : Nat} {now later : Time} {row row' : Option OutboxEvent}
    {log log' : List Event} (inv : RowInv e now row log) (le : now ≤ later)
    (taken : RowStep e now row log row' log') : RowInv e later row' log' := by
  cases taken with
  | kept =>
    exact ⟨inv.absent, inv.processing, inv.sent,
      fun r startedAt found started => (inv.past r startedAt found started).trans le⟩
  | inserted new absent pending unstarted unsent =>
    refine ⟨by simp, ?_, ?_, ?_⟩
    · rintro r ⟨⟩
      simp [pending, unstarted]
    · rintro r ⟨⟩
      simp [pending, unsent]
    · rintro r startedAt ⟨⟩ started
      rw [unstarted] at started
      cases started
  | claimed old startedAt found pending past event noted =>
    -- a PENDING row has no `sentAt`, and the claim leaves that column alone
    have unsent := inv.sent old found
    refine ⟨by simp, ?_, ?_, ?_⟩
    · rintro r ⟨⟩
      simp [OutboxEvent.claimed]
    · rintro r ⟨⟩
      simpa [OutboxEvent.claimed, pending] using unsent
    · rintro r at' ⟨⟩ ⟨⟩
      exact past.trans le
  | markedSent old sentAt found =>
    refine ⟨by simp, ?_, ?_, ?_⟩
    · rintro r ⟨⟩
      simp [OutboxEvent.markedSent]
    · rintro r ⟨⟩
      simp [OutboxEvent.markedSent]
    · rintro r startedAt ⟨⟩ ⟨⟩
  | recovered old startedAt found processing started elapsed =>
    have unsent := inv.sent old found
    refine ⟨by simp, ?_, ?_, ?_⟩
    · rintro r ⟨⟩
      simp [OutboxEvent.recovered]
    · rintro r ⟨⟩
      simpa [OutboxEvent.recovered, processing] using unsent
    · rintro r at' ⟨⟩ ⟨⟩

section Calls

variable {table table' : OutboxTable} {call : OutboxCall}

theorem OutboxTable.call_clock (taken : table.call call = some table') :
    table.now ≤ table'.now := by
  cases call with
  | elapse time =>
    cases taken
    exact Nat.le_add_right _ _
  | create | claim | recoverStuckProcessing =>
    simp only [OutboxTable.call] at taken
    split at taken <;> cases taken
    exact Nat.le_refl _
  | markAsSent =>
    simp only [OutboxTable.call] at taken
    split at taken <;> cases taken
    exact Nat.le_refl _

theorem OutboxTable.call_nodup (nodup : (table.rows.map (·.id)).Nodup)
    (taken : table.call call = some table') : (table'.rows.map (·.id)).Nodup := by
  cases call with
  | elapse time =>
    cases taken
    exact nodup
  | create input id =>
    simp only [OutboxTable.call] at taken
    split at taken
    · cases taken
    next fresh =>
      cases taken
      rw [List.map_append, List.nodup_append]
      refine ⟨nodup, by simp, ?_⟩
      rintro a member b single rfl
      rw [List.map_singleton, List.mem_singleton] at single
      subst single
      exact fresh member
  | claim id startedAt replied =>
    simp only [OutboxTable.call] at taken
    split at taken <;> cases taken
    rw [ids_of_identity (claim_identity table.rows id startedAt)]
    exact nodup
  | markAsSent id sentAt =>
    simp only [OutboxTable.call] at taken
    split at taken
    next rows marked =>
      cases taken
      rw [ids_of_identity (markAsSent_identity marked)]
      exact nodup
    · cases taken
  | recoverStuckProcessing calledAt =>
    simp only [OutboxTable.call] at taken
    split at taken <;> cases taken
    rw [ids_of_identity (recoverStuckProcessing_identity table.rows calledAt)]
    exact nodup

theorem OutboxTable.call_rowStep (nodup : (table.rows.map (·.id)).Nodup)
    (taken : table.call call = some table') (e : Nat) :
    RowStep e table.now (table.row e) (table.logOf e) (table'.row e) (table'.logOf e) := by
  cases call with
  | elapse time =>
    cases taken
    exact .kept
  | create input id =>
    simp only [OutboxTable.call] at taken
    split at taken <;> cases taken
    simp only [OutboxTable.row, OutboxTable.logOf]
    rcases rowOf_insert (e := e) with same | ⟨absent, found⟩
    · rw [same]
      exact .kept
    · rw [found]
      exact .inserted _ absent rfl rfl rfl
  | claim id startedAt replied =>
    simp only [OutboxTable.call] at taken
    split at taken
    next past =>
      cases taken
      simp only [OutboxTable.row, OutboxTable.logOf]
      cases won : (claim table.rows id startedAt).2 with
      | true =>
        simp only [if_true]
        cases replied with
        | true => exact claim_rowStep nodup past won (Or.inl rfl)
        | false => exact claim_rowStep nodup past won (Or.inr rfl)
      | false =>
        rw [claim_missed nodup won]
        exact .kept
    · cases taken
  | markAsSent id sentAt =>
    simp only [OutboxTable.call] at taken
    split at taken
    next rows marked =>
      cases taken
      exact markAsSent_rowStep marked
    · cases taken
  | recoverStuckProcessing calledAt =>
    simp only [OutboxTable.call] at taken
    split at taken
    next past =>
      cases taken
      simp only [OutboxTable.row, OutboxTable.logOf, List.filter_append]
      exact recover_rowStep nodup past
    · cases taken

end Calls

theorem table_invariant {allowed : OutboxTable → OutboxCall → Prop} {table : OutboxTable}
    (reachable : outboxTable.Reachable allowed table) :
    (table.rows.map (·.id)).Nodup ∧ ∀ e, RowInv e table.now (table.row e) (table.logOf e) := by
  apply reachable.invariant (I := fun table => (table.rows.map (·.id)).Nodup ∧
    ∀ e, RowInv e table.now (table.row e) (table.logOf e))
  · rintro table rfl
    refine ⟨List.nodup_nil, fun e => ⟨fun _ => rfl, ?_, ?_, ?_⟩⟩
    · rintro r ⟨⟩
    · rintro r ⟨⟩
    · rintro r startedAt ⟨⟩
  · intro table call table' _ inv _ taken
    exact ⟨OutboxTable.call_nodup inv.1 taken, fun e =>
      (inv.2 e).step (OutboxTable.call_clock taken) (OutboxTable.call_rowStep inv.1 taken e)⟩

/-- A SENT row stays as it is but for the time of a further `markAsSent`. -/
theorem RowStep.sent_stable {e : Nat} {now : Time} {row row' : Option OutboxEvent}
    {log log' : List Event} (taken : RowStep e now row log row' log')
    (sent : ∃ r, row = some r ∧ r.status = .sent) : ∃ r, row' = some r ∧ r.status = .sent := by
  obtain ⟨r, found, status⟩ := sent
  cases taken with
  | kept => exact ⟨r, found, status⟩
  | inserted new absent => cases found.symm.trans absent
  | claimed old startedAt present pending =>
    cases found.symm.trans present
    cases status.symm.trans pending
  | markedSent old sentAt present => exact ⟨_, rfl, rfl⟩
  | recovered old startedAt present processing =>
    cases found.symm.trans present
    cases status.symm.trans processing

theorem sent_steps {table table' : OutboxTable} (reachable : outboxTable.Reachable anyCall table)
    (steps : outboxTable.Steps anyCall table table') {e : Nat}
    (sent : ∃ r, table.row e = some r ∧ r.status = .sent) :
    ∃ r, table'.row e = some r ∧ r.status = .sent := by
  refine reachable.stable (P := fun table => ∃ r, table.row e = some r ∧ r.status = .sent)
    ?_ steps sent
  intro table call table' before sent _ taken
  exact (OutboxTable.call_rowStep (table_invariant before).1 taken e).sent_stable sent

theorem claim_sent {rows : List OutboxEvent} {row : OutboxEvent} (startedAt : Time)
    (nodup : (rows.map (·.id)).Nodup) (member : row ∈ rows) (sent : row.status = .sent) :
    (claim rows row.id startedAt).2 = false := by
  cases won : (claim rows row.id startedAt).2 with
  | false => rfl
  | true =>
    obtain ⟨other, present, same, pending⟩ := claim_won won
    rw [List.inj_on_of_nodup_map nodup present member same, sent] at pending
    cases pending

/-- The recovery's filter asks for PROCESSING. -/
theorem recover_sent {rows : List OutboxEvent} {row : OutboxEvent} {id : Nat} (now : Time)
    (present : rowOf rows id = some row) (sent : row.status = .sent) :
    rowOf (recoverStuckProcessing rows now).1 id = some row := by
  have unmoved : stuck now row = false := by simp [stuck, sent]
  rw [recoverStuckProcessing, rowOf_updateMany (by exact fun _ => rfl), present]
  simp [unmoved]

/-- And `findPending`'s for PENDING. -/
theorem findPending_sent {rows : List OutboxEvent} {row : OutboxEvent} {limit : Nat}
    {pending : List PendingOutboxEvent} (nodup : (rows.map (·.id)).Nodup) (member : row ∈ rows)
    (sent : row.status = .sent) (listed : findPending rows limit = .ok pending) :
    ∀ event ∈ pending, event.id ≠ row.id := by
  intro event inList equal
  obtain ⟨other, inside, waiting, checked⟩ := mem_findPending listed inList
  have same : other.id = row.id := (toPending_ok checked).1 ▸ equal
  rw [List.inj_on_of_nodup_map nodup inside member same, sent] at waiting
  cases waiting

/-- A PROCESSING row is moved once 30 s have passed. -/
theorem recover_processing {rows : List OutboxEvent} {row : OutboxEvent} {startedAt now : Time}
    (nodup : (rows.map (·.id)).Nodup) (member : row ∈ rows) (processing : row.status = .processing)
    (started : row.processingStartedAt = some startedAt) (elapsed : startedAt + 30000 < now) :
    rowOf (recoverStuckProcessing rows now).1 row.id = some row.recovered := by
  have moved : stuck now row = true := stuck_iff.mpr ⟨processing, startedAt, started, elapsed⟩
  rw [recoverStuckProcessing, rowOf_updateMany (by exact fun _ => rfl), rowOf_mem nodup member]
  simp [moved, OutboxEvent.recovered]

/-- **The outbox row state machine.** After any sequence of calls PROCESSING rows are the ones
with a start time and SENT rows the ones with `sentAt`. A SENT row stays SENT in every later
state, where no claim of it returns true, no recovery changes it and `findPending` leaves it
out. A PROCESSING row's start time has passed, and a recovery called more than 30 s after it
makes the row PENDING. -/
theorem outbox_row_machine (table : OutboxTable)
    (reachable : outboxTable.Reachable anyCall table) :
    (∀ row ∈ table.rows,
      (row.status = .processing ↔ row.processingStartedAt ≠ none) ∧
      (row.status = .sent ↔ row.sentAt ≠ none)) ∧
    (∀ row ∈ table.rows, row.status = .sent →
      ∀ table', outboxTable.Steps anyCall table table' →
        ∃ row' ∈ table'.rows, row'.id = row.id ∧ row'.status = .sent ∧
          (∀ other ∈ table'.rows, other.id = row.id → other = row') ∧
          (∀ startedAt, (claim table'.rows row.id startedAt).2 = false) ∧
          (∀ now, rowOf (recoverStuckProcessing table'.rows now).1 row.id = some row') ∧
          (∀ limit pending, findPending table'.rows limit = .ok pending →
            ∀ event ∈ pending, event.id ≠ row.id)) ∧
    (∀ row ∈ table.rows, row.status = .processing →
      ∃ startedAt ≤ table.now, row.processingStartedAt = some startedAt ∧
        ∀ now, startedAt + 30000 < now →
          rowOf (recoverStuckProcessing table.rows now).1 row.id = some row.recovered) := by
  obtain ⟨nodup, rows⟩ := table_invariant reachable
  have found (row : OutboxEvent) (member : row ∈ table.rows) : table.row row.id = some row :=
    rowOf_mem nodup member
  refine ⟨?_, ?_, ?_⟩
  · intro row member
    have inv := rows row.id
    exact ⟨inv.processing row (found row member), inv.sent row (found row member)⟩
  · intro row member sent table' steps
    have nodup' := (table_invariant (reachable.trans steps)).1
    obtain ⟨row', present, status⟩ := sent_steps reachable steps ⟨row, found row member, sent⟩
    obtain ⟨member', same⟩ := rowOf_some present
    have unique : ∀ other ∈ table'.rows, other.id = row.id → other = row' :=
      fun other inside equal =>
        List.inj_on_of_nodup_map nodup' inside member' (equal.trans same.symm)
    refine ⟨row', member', same, status, unique, ?_, ?_, ?_⟩
    · intro startedAt
      rw [← same]
      exact claim_sent startedAt nodup' member' status
    · exact fun now => recover_sent now present status
    · intro limit pending listed
      rw [← same]
      exact findPending_sent nodup' member' status listed
  · intro row member processing
    have inv := rows row.id
    cases started : row.processingStartedAt with
    -- a null start time would never match the filter
    | none => exact absurd started ((inv.processing row (found row member)).mp processing)
    | some startedAt =>
      refine ⟨startedAt, inv.past row startedAt (found row member) started, rfl, ?_⟩
      exact fun now elapsed => recover_processing nodup member processing started elapsed

/-- A publisher overruns, the row is recovered and taken over, and the first one's
`markAsSent` comes last. -/
def lateMark : OutboxTable :=
  outboxTable.play (fun _ _ => true) ⟨0, [], []⟩
    [.create ⟨"ORDER_NOTIFICATION", ⟨1, "a", []⟩⟩ 1, .claim 1 0 true, .elapse 30001,
      .recoverStuckProcessing 30001, .claim 1 30001 true, .markAsSent 1 30001]

theorem lateMark_row :
    lateMark.rows.map (·.status) = [.sent] ∧
    ∀ row ∈ lateMark.rows, (row.status = .processing ↔ row.processingStartedAt ≠ none) ∧
      (row.status = .sent ↔ row.sentAt ≠ none) := by
  have reachable : outboxTable.Reachable anyCall lateMark :=
    System.play_reachable _ (fun _ _ _ => trivial) (.init rfl) _
  exact ⟨by decide, (outbox_row_machine lateMark reachable).1⟩

end FlashSaleLab
