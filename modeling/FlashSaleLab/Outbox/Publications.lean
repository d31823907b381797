import FlashSaleLab.Foundations.Credits
import FlashSaleLab.Outbox.Steps

/-!
# Claims bound publications

The outbox of the whole system is a run of `outboxTable`, so the table's accounts hold there.
A publisher that saw its claim return true has one publication to its credit.
-/
namespace FlashSaleLab

open PrismaOutboxRepository Transition

/-- Each claim carries a time that has passed. -/
def ClaimClock (s : State) : Prop :=
  ∀ host event rest startedAt, (s.publishers host).pc = .claiming event rest startedAt →
    startedAt ≤ s.now

theorem ClaimClock.step {s s' : State} (inv : ClaimClock s) (later : s.now ≤ s'.now)
    (taken : OutboxStep s s') : ClaimClock s' := by
  intro host event rest startedAt suspended
  cases taken.publisher host with
  | kept same => exact (inv host event rest startedAt (same ▸ suspended)).trans later
  | reset nothing =>
    rcases nothing with idle | finding
    · cases idle.symm.trans suspended
    · cases finding.symm.trans suspended
  | settled events moved =>
    rw [suspended] at moved
    generalize s'.db.outboxEvents = rows at moved
    cases moved
  | advanced moved =>
    rw [suspended] at moved
    cases moved with
    -- `new Date()` is taken when the claim is made
    | advanced => exact later
  | published other tail channel claimed moved => cases moved.symm.trans suspended

/-- The entry is about some row. -/
def Event.writesRow : Event → Bool
  | .claimed _ _ => true
  | .claimLost _ _ => true
  | .markedSent _ _ => true
  | .recovered _ => true
  | _ => false

/-- The outbox table of the whole system. -/
def State.outbox (s : State) : OutboxTable :=
  ⟨s.now, s.db.outboxEvents, s.history.filter (·.writesRow)⟩

theorem filter_foreign {events : List Event} (foreign : ∀ event ∈ events, event.outboxId? = none) :
    events.filter (·.writesRow) = [] := by
  refine List.filter_eq_nil_iff.mpr fun event member => ?_
  have := foreign event member
  cases event <;> simp_all [Event.outboxId?, Event.writesRow]

theorem State.outbox_logOf (s : State) (e : Nat) :
    s.outbox.logOf e = s.history.filter (·.writes e) := by
  rw [OutboxTable.logOf, State.outbox, List.filter_filter]
  refine List.filter_congr fun event _ => ?_
  cases event <;> simp [Event.writes, Event.writesRow]

/-- A call, or none, and then the clock moves on. -/
theorem outbox_steps {table middle later : OutboxTable} (call : Option OutboxCall)
    (taken : call.elim (some table) table.call = some middle) (clock : middle.now ≤ later.now)
    (rows : later.rows = middle.rows) (log : later.log = middle.log) :
    outboxTable.Steps anyCall table later := by
  have elapsed : outboxTable.Steps anyCall middle later := by
    refine .single ⟨.elapse (later.now - middle.now), trivial, ?_⟩
    obtain ⟨now, rows', log'⟩ := later
    cases rows
    cases log
    simp only [outboxTable, OutboxTable.call, Option.some.injEq, OutboxTable.mk.injEq, and_true]
    exact Nat.add_sub_cancel' clock
  cases call with
  | none =>
    cases taken
    exact elapsed
  | some call => exact .head ⟨call, trivial, taken⟩ elapsed

/-- **Refinement.** A step of the system is a call to the outbox table, or none. -/
theorem OutboxStep.refines {s s' : State} (clock : ClaimClock s) (later : s.now ≤ s'.now)
    (nodup : (s'.db.outboxEvents.map (·.id)).Nodup) (taken : OutboxStep s s') :
    outboxTable.Steps anyCall s.outbox s'.outbox := by
  cases taken with
  | idle rows publishers events foreign history =>
    apply outbox_steps none rfl later rows
    simp [State.outbox, history, filter_foreign foreign]
  | inserted input id rows publishers history =>
    have fresh : id ∉ s.db.outboxEvents.map (·.id) := by
      rw [rows, List.map_append, List.nodup_append] at nodup
      exact fun member => nodup.2.2 id member id (by simp [create]) rfl
    exact outbox_steps (some (.create input id)) (if_neg fresh) later rows
      (by simp [State.outbox, history])
  | recovered calledAt past rows publishers history =>
    refine outbox_steps (some (.recoverStuckProcessing calledAt)) (if_pos past) later rows ?_
    simp only [State.outbox, history, List.filter_append, List.filter_map]
    congr 1
    simp [Function.comp_def, Event.writesRow]
  | settled host publisher events moved publishers history =>
    generalize table : s'.outbox = later' at *
    have rows' : later'.rows = s'.db.outboxEvents := by rw [← table]; rfl
    have log' : later'.log = (events ++ s.history).filter (·.writesRow) := by
      rw [← table, ← history]; rfl
    have clock' : s.now ≤ later'.now := by rw [← table]; exact later
    generalize s'.db.outboxEvents = rows, publisher.pc = pc at moved rows'
    cases moved with
    | claimed event rest startedAt suspended won =>
      have past := clock host event rest startedAt suspended
      exact outbox_steps (some (.claim event.id startedAt true)) (if_pos past) clock' rows'
        (by simp [log', State.outbox, Event.writesRow, won])
    | claimLost event rest startedAt suspended won =>
      have past := clock host event rest startedAt suspended
      exact outbox_steps (some (.claim event.id startedAt false)) (if_pos past) clock' rows'
        (by simp [log', State.outbox, Event.writesRow, won])
    | marked event rest sentAt rows reply suspended updated =>
      have called : s.outbox.call (.markAsSent event.id sentAt) =
          some ⟨s.now, rows, .markedSent event.id s.now :: s.outbox.log⟩ := by
        simp [OutboxTable.call, State.outbox, updated]
      exact outbox_steps (some (.markAsSent event.id sentAt)) called clock' rows'
        (by simp [log', State.outbox, Event.writesRow])
    | _ => exact outbox_steps none rfl clock' rows' log'
  | advanced host publisher moved rows publishers history =>
    exact outbox_steps none rfl later rows (by simp [State.outbox, history])
  | published host publisher event rest channel suspended moved rows publishers history =>
    exact outbox_steps none rfl later rows (by simp [State.outbox, history, Event.writesRow])

theorem outbox_reachable {stock : Int → Option Nat} {allowed : State → Action → Prop} {s : State}
    (reachable : (system stock).Reachable allowed s) :
    ClaimClock s ∧ outboxTable.Reachable anyCall s.outbox := by
  apply reachable.invariant
    (I := fun s => ClaimClock s ∧ outboxTable.Reachable anyCall s.outbox)
  · rintro s rfl
    refine ⟨fun host event rest startedAt suspended => ?_, .init rfl⟩
    cases suspended
  · rintro s a s' before ⟨clock, table⟩ permitted taken
    obtain ⟨calls, ledger⟩ := sales_invariant before
    have step := outboxStep calls ledger taken
    have later := State.clock_step taken
    have nodup := (sales_invariant (.step before permitted taken)).2.eventIds.nodup
    exact ⟨clock.step later step, table.trans (step.refines clock later nodup)⟩

/-! ### The table's accounts -/

/-- A claim of `e` that took effect. -/
def Event.claims (e : Nat) : Event → Bool
  | .claimed event _ => event = e
  | .claimLost event _ => event = e
  | _ => false

/-- A claim of `e` that returned true. -/
def Event.wins (e : Nat) : Event → Bool
  | .claimed event _ => event = e
  | _ => false

def Event.recovers (e : Nat) : Event → Bool
  | .recovered event => event = e
  | _ => false

def Event.publishes (e : Nat) : Event → Bool
  | .published event => event = e
  | _ => false

/-- The row was still PROCESSING 30 s after `startedAt`: no `markAsSent` before that. -/
def Late (e : Nat) (now : Time) (log : List Event) (startedAt : Time) : Prop :=
  startedAt + 30000 < now ∧ ∀ time, .markedSent e time ∈ log → startedAt + 30000 < time

/-- Claims and recoveries of `e` against the row's status. A claim that won is still in force,
or the row is SENT, or it was late. -/
structure AccountInv (e : Nat) (now : Time) (row : Option OutboxEvent) (log : List Event) :
    Prop where
  pending : ∀ r, row = some r → r.status = .pending →
    log.countP (·.claims e) ≤ log.countP (·.recovers e)
  balance : log.countP (·.claims e) ≤ 1 + log.countP (·.recovers e)
  marked : ∀ time, .markedSent e time ∈ log → ∃ r, row = some r ∧ r.status = .sent
  settled : ∀ startedAt, .claimed e startedAt ∈ log →
    (∃ r, row = some r ∧ (r.status = .sent ∨
      (r.status = .processing ∧ r.processingStartedAt = some startedAt))) ∨
    Late e now log startedAt
  twice : log.countP (·.wins e) ≤ 1 ∨ ∃ startedAt, .claimed e startedAt ∈ log ∧
    Late e now log startedAt

section Accounts

variable {e : Nat} {now later startedAt : Time} {row row' : Option OutboxEvent}
  {log log' : List Event}

theorem Late.mono (late : Late e now log startedAt) (le : now ≤ later) :
    Late e later log startedAt :=
  ⟨late.1.trans_le le, late.2⟩

/-- Only another `markAsSent` could speak against it, and that one comes later still. -/
theorem Late.cons (late : Late e now log startedAt) (event : Event)
    (mark : ∀ time, event = .markedSent e time → time = now) :
    Late e now (event :: log) startedAt := by
  refine ⟨late.1, fun time member => ?_⟩
  rcases List.mem_cons.mp member with same | before
  · rw [mark time same.symm]
    exact late.1
  · exact late.2 time before

theorem AccountInv.initial : AccountInv e now row [] :=
  ⟨by simp, by simp, by simp, by simp, by simp⟩

theorem AccountInv.elapse (inv : AccountInv e now row log) (le : now ≤ later) :
    AccountInv e later row log where
  pending := inv.pending
  balance := inv.balance
  marked := inv.marked
  settled startedAt claimed := (inv.settled startedAt claimed).imp_right (·.mono le)
  twice := inv.twice.imp_right fun ⟨startedAt, claimed, late⟩ => ⟨startedAt, claimed, late.mono le⟩

/-- While the row is PENDING every earlier claim that won was late. -/
theorem AccountInv.late_of_pending (inv : AccountInv e now row log) {old : OutboxEvent}
    (found : row = some old) (pending : old.status = .pending)
    (claimed : .claimed e startedAt ∈ log) : Late e now log startedAt := by
  rcases inv.settled startedAt claimed with ⟨r, present, status⟩ | late
  · cases found.symm.trans present
    simp [pending] at status
  · exact late

theorem exists_claimed {log : List Event} (won : 0 < log.countP (·.wins e)) :
    ∃ startedAt, .claimed e startedAt ∈ log := by
  obtain ⟨event, member, wins⟩ := List.countP_pos_iff.mp won
  cases event <;> simp [Event.wins] at wins
  subst wins
  exact ⟨_, member⟩

/-- A claim takes a PENDING row, so every claim before it was late. -/
theorem AccountInv.claim {old : OutboxEvent} {event : Event}
    (inv : AccountInv e now (some old) log) (pending : old.status = .pending)
    (noted : event = .claimed e startedAt ∨ event = .claimLost e startedAt) :
    AccountInv e now (some (old.claimed startedAt)) (event :: log) := by
  have late (d : Time) (claimed : .claimed e d ∈ log) : Late e now (event :: log) d := by
    refine (inv.late_of_pending rfl pending claimed).cons event fun time same => ?_
    rcases noted with rfl | rfl <;> cases same
  have claims : (event :: log).countP (·.claims e) = log.countP (·.claims e) + 1 := by
    rcases noted with rfl | rfl <;> simp [Event.claims]
  have recoveries : (event :: log).countP (·.recovers e) = log.countP (·.recovers e) := by
    rcases noted with rfl | rfl <;> simp [Event.recovers]
  have before := inv.pending old rfl pending
  refine ⟨?_, by omega, ?_, ?_, ?_⟩
  · rintro r ⟨⟩ waiting
    simp [OutboxEvent.claimed] at waiting
  · intro time member
    rcases List.mem_cons.mp member with same | earlier
    · rcases noted with rfl | rfl <;> cases same
    · obtain ⟨r, present, sent⟩ := inv.marked time earlier
      cases present
      cases pending.symm.trans sent
  · intro d member
    rcases List.mem_cons.mp member with same | earlier
    · -- this claim itself is in force
      rcases noted with rfl | rfl <;> cases same
      exact Or.inl ⟨_, rfl, Or.inr ⟨rfl, rfl⟩⟩
    · exact Or.inr (late d earlier)
  · rcases Nat.eq_zero_or_pos (log.countP (·.wins e)) with none | some
    · left
      rw [List.countP_cons, none]
      split <;> omega
    · obtain ⟨d, claimed⟩ := exists_claimed some
      exact Or.inr ⟨d, List.mem_cons_of_mem _ claimed, late d claimed⟩

theorem AccountInv.mark {old : OutboxEvent} {sentAt : Time}
    (inv : AccountInv e now (some old) log) :
    AccountInv e now (some (old.markedSent sentAt)) (.markedSent e now :: log) := by
  have later (d : Time) (late : Late e now log d) : Late e now (.markedSent e now :: log) d :=
    late.cons _ fun time same => by cases same; rfl
  refine ⟨?_, by simpa [Event.claims, Event.recovers] using inv.balance, ?_, ?_, ?_⟩
  · rintro r ⟨⟩ waiting
    simp [OutboxEvent.markedSent] at waiting
  · exact fun _ _ => ⟨_, rfl, rfl⟩
  · exact fun _ _ => Or.inl ⟨_, rfl, Or.inl rfl⟩
  · rcases inv.twice with once | ⟨d, claimed, late⟩
    · left
      simpa [Event.wins] using once
    · exact Or.inr ⟨d, List.mem_cons_of_mem _ claimed, later d late⟩

/-- A recovery takes a PROCESSING row that was never marked, and makes the claim in force late. -/
theorem AccountInv.recover {old : OutboxEvent} (inv : AccountInv e now (some old) log)
    (processing : old.status = .processing) (started : old.processingStartedAt = some startedAt)
    (elapsed : startedAt + 30000 < now) :
    AccountInv e now (some old.recovered) (.recovered e :: log) := by
  have unmarked (time : Time) (member : .markedSent e time ∈ Event.recovered e :: log) :
      False := by
    obtain ⟨r, present, sent⟩ := inv.marked time (by simpa using member)
    cases present
    cases processing.symm.trans sent
  have recoveries : (Event.recovered e :: log).countP (·.recovers e) =
      log.countP (·.recovers e) + 1 := by simp [Event.recovers]
  have claims : (Event.recovered e :: log).countP (·.claims e) = log.countP (·.claims e) := by
    simp [Event.claims]
  have balance := inv.balance
  have late (d : Time) (claimed : .claimed e d ∈ log) :
      Late e now (.recovered e :: log) d := by
    refine ⟨?_, fun time member => (unmarked time member).elim⟩
    rcases inv.settled d claimed with ⟨r, present, sent | ⟨_, since⟩⟩ | late
    · cases present
      cases processing.symm.trans sent
    · -- the recovery's filter read the start time this claim wrote
      cases present
      cases started.symm.trans since
      exact elapsed
    · exact late.1
  refine ⟨fun _ _ _ => by omega, by omega, fun time member => (unmarked time member).elim, ?_, ?_⟩
  · exact fun d member => Or.inr (late d (by simpa using member))
  · rcases inv.twice with once | ⟨d, claimed, _⟩
    · left
      simpa [Event.wins] using once
    · exact Or.inr ⟨d, List.mem_cons_of_mem _ claimed, late d claimed⟩

theorem AccountInv.step (inv : AccountInv e now row log) (rowInv : RowInv e now row log)
    (taken : RowStep e now row log row' log') : AccountInv e now row' log' := by
  cases taken with
  | kept => exact inv
  | inserted new absent =>
    rw [rowInv.absent absent]
    exact .initial
  | claimed old startedAt found pending past event noted =>
    subst found
    exact inv.claim pending noted
  | markedSent old sentAt found =>
    subst found
    exact inv.mark
  | recovered old startedAt found processing started elapsed =>
    subst found
    exact inv.recover processing started elapsed

end Accounts

theorem table_accounts {allowed : OutboxTable → OutboxCall → Prop} {table : OutboxTable}
    (reachable : outboxTable.Reachable allowed table) (e : Nat) :
    AccountInv e table.now (table.row e) (table.logOf e) := by
  apply reachable.invariant
    (I := fun table => AccountInv e table.now (table.row e) (table.logOf e))
  · rintro table rfl
    exact .initial
  · intro table call table' before inv _ taken
    obtain ⟨nodup, rows⟩ := table_invariant before
    have step := OutboxTable.call_rowStep nodup taken e
    exact (inv.step (rows e) step).elapse (OutboxTable.call_clock taken)

/-! ### Publications -/

/-- The publisher's claim of `e` returned true and it has not gone on yet. -/
def MayPublish (s : State) (e : Nat) (host : InstanceId) : Prop :=
  ∃ event rest, (s.publishers host).pc = .claimed event rest (.resolved true) ∧ event.id = e

/-- Each claim of `e` that returned true is a credit for one publication of `e`. -/
def CreditInv (e : Nat) (s : State) : Prop :=
  Credits (s.history.countP (·.wins e)) (s.history.countP (·.publishes e)) (MayPublish s e)

theorem countP_foreign {events : List Event} (foreign : ∀ event ∈ events, event.outboxId? = none)
    (e : Nat) : events.countP (·.wins e) = 0 ∧ events.countP (·.publishes e) = 0 := by
  constructor <;> refine List.countP_eq_zero.mpr fun event member => ?_ <;>
    have := foreign event member <;> cases event <;>
    simp_all [Event.outboxId?, Event.wins, Event.publishes]

theorem mayPublish_moved {e : Nat} {s s' : State} {mover host : InstanceId} {publisher : Publisher}
    (publishers : s'.publishers = Function.update s.publishers mover publisher)
    (may : MayPublish s' e host) :
    (host = mover ∧ ∃ event rest, publisher.pc = .claimed event rest (.resolved true) ∧
      event.id = e) ∨ (host ≠ mover ∧ MayPublish s e host) := by
  obtain ⟨event, rest, suspended, same⟩ := may
  rw [publishers] at suspended
  by_cases moved : host = mover
  · subst moved
    rw [Function.update_self] at suspended
    exact Or.inl ⟨rfl, event, rest, suspended, same⟩
  · rw [Function.update_of_ne moved] at suspended
    exact Or.inr ⟨moved, event, rest, suspended, same⟩

/-- A publisher that does not end up with a won claim earns nothing. -/
theorem CreditInv.quiet {e : Nat} {s s' : State} (inv : CreditInv e s) {mover : InstanceId}
    {publisher : Publisher}
    (publishers : s'.publishers = Function.update s.publishers mover publisher)
    (without : ∀ event rest, publisher.pc = .claimed event rest (.resolved true) → event.id ≠ e)
    (wins : s'.history.countP (·.wins e) = s.history.countP (·.wins e))
    (published : s'.history.countP (·.publishes e) = s.history.countP (·.publishes e)) :
    CreditInv e s' := by
  unfold CreditInv at *
  rw [wins, published]
  refine inv.drop fun host may => ?_
  rcases mayPublish_moved publishers may with ⟨_, event, rest, suspended, same⟩ | ⟨_, before⟩
  · exact absurd same (without event rest suspended)
  · exact before

/-- A step that touches no publisher and notes down neither a claim nor a publication. -/
theorem CreditInv.idle {e : Nat} {s s' : State} (inv : CreditInv e s) {events : List Event}
    (history : s'.history = events ++ s.history) (wins : events.countP (·.wins e) = 0)
    (published : events.countP (·.publishes e) = 0)
    (fewer : ∀ host, MayPublish s' e host → MayPublish s e host) : CreditInv e s' := by
  unfold CreditInv at *
  rw [history, List.countP_append, List.countP_append, wins, published, Nat.zero_add, Nat.zero_add]
  exact inv.drop fewer

/-- The publisher whose claim returned true earns its credit. -/
theorem CreditInv.claimed {e : Nat} {s s' : State} (inv : CreditInv e s) {host : InstanceId}
    {publisher : Publisher} {startedAt : Time}
    (publishers : s'.publishers = Function.update s.publishers host publisher)
    (history : s'.history = .claimed e startedAt :: s.history) : CreditInv e s' := by
  have wins : s'.history.countP (·.wins e) = s.history.countP (·.wins e) + 1 := by
    simp [history, Event.wins]
  have published : s'.history.countP (·.publishes e) = s.history.countP (·.publishes e) := by
    simp [history, Event.publishes]
  unfold CreditInv at *
  rw [wins, published]
  refine inv.earn host fun other may => ?_
  rcases mayPublish_moved publishers may with ⟨moved, _⟩ | ⟨_, before⟩
  · exact Or.inl moved
  · exact Or.inr before

/-- And spends it when it publishes: it goes on to await the confirmation. -/
theorem CreditInv.published {s s' : State} {event : PendingOutboxEvent}
    (inv : CreditInv event.id s) {host : InstanceId} {publisher : Publisher}
    {rest : List PendingOutboxEvent} {copy : CopyId}
    (suspended : (s.publishers host).pc = .claimed event rest (.resolved true))
    (moved : publisher.pc = .publishing event rest copy)
    (publishers : s'.publishers = Function.update s.publishers host publisher)
    (history : s'.history = .published event.id :: s.history) : CreditInv event.id s' := by
  have wins : s'.history.countP (·.wins event.id) = s.history.countP (·.wins event.id) := by
    simp [history, Event.wins]
  have published : s'.history.countP (·.publishes event.id) =
      s.history.countP (·.publishes event.id) + 1 := by
    simp [history, Event.publishes]
  unfold CreditInv at *
  rw [wins, published]
  refine inv.spend ⟨event, rest, suspended, rfl⟩ fun other may => ?_
  rcases mayPublish_moved publishers may with ⟨_, _, _, stillClaimed, _⟩ | before
  · cases moved.symm.trans stillClaimed
  · exact before

theorem CreditInv.step {e : Nat} {s s' : State} (inv : CreditInv e s) (taken : OutboxStep s s') :
    CreditInv e s' := by
  cases taken with
  | idle rows publishers events foreign history =>
    obtain ⟨wins, published⟩ := countP_foreign foreign e
    refine inv.idle history wins published fun host ⟨event, rest, suspended, same⟩ => ?_
    rcases publishers host with kept | idle | finding
    · exact ⟨event, rest, kept ▸ suspended, same⟩
    · cases idle.symm.trans suspended
    · cases finding.symm.trans suspended
  | inserted input id rows publishers history =>
    have nothing : s'.history = [] ++ s.history := history
    exact inv.idle nothing rfl rfl fun host ⟨event, rest, suspended, same⟩ =>
      ⟨event, rest, publishers ▸ suspended, same⟩
  | recovered calledAt past rows publishers history =>
    refine inv.idle history ?_ ?_ fun host ⟨event, rest, suspended, same⟩ =>
      ⟨event, rest, publishers ▸ suspended, same⟩
    · simp [List.countP_map, Function.comp_def, Event.wins]
    · simp [List.countP_map, Function.comp_def, Event.publishes]
  | settled host publisher events moved publishers history =>
    generalize s'.db.outboxEvents = rows at moved
    generalize paused : publisher.pc = pc at moved
    cases moved with
    | claimed event rest startedAt suspended won =>
      by_cases same : event.id = e
      · subst same
        exact inv.claimed publishers history
      · refine inv.quiet publishers (fun other tail suspended => ?_)
          (by simp [history, Event.wins, same]) (by simp [history, Event.publishes])
        cases paused.symm.trans suspended
        exact same
    | claimMissed event rest startedAt reply suspended missed =>
      refine inv.quiet publishers (fun other tail suspended => ?_) (by simp [history])
        (by simp [history])
      cases paused.symm.trans suspended
      exact absurd rfl missed
    | _ =>
      refine inv.quiet publishers (fun other tail suspended => ?_)
        (by simp [history, Event.wins]) (by simp [history, Event.publishes])
      cases paused.symm.trans suspended
  | advanced host publisher moved rows publishers history =>
    refine inv.quiet publishers (fun other tail suspended => ?_) (by rw [history]) (by rw [history])
    rw [suspended] at moved
    cases moved
  | published host publisher event rest channel suspended moved rows publishers history =>
    by_cases same : event.id = e
    · subst same
      exact inv.published suspended moved publishers history
    · refine inv.quiet publishers (fun other tail stillClaimed => ?_)
        (by simp [history, Event.wins]) (by simp [history, Event.publishes, same])
      cases moved.symm.trans stillClaimed

theorem credit_invariant {stock : Int → Option Nat} {allowed : State → Action → Prop} {s : State}
    (reachable : (system stock).Reachable allowed s) (e : Nat) : CreditInv e s := by
  apply reachable.invariant (I := CreditInv e)
  · rintro s rfl
    refine .empty fun host may => ?_
    obtain ⟨event, rest, suspended, _⟩ := may
    cases suspended
  · intro s a s' before inv _ taken
    obtain ⟨calls, ledger⟩ := sales_invariant before
    exact inv.step (outboxStep calls ledger taken)

/-- **Claims bound publications.** In every reachable state and for every event: at most as many
publications as claims that returned true, which are at most the claims that took effect,
which are at most one more than the recoveries. When each claim that returned true is
followed by a `markAsSent` less than 30 s after the start time it wrote, the event was
published at most once. -/
theorem claims_bound_publications (stock : Int → Option Nat) (s : State)
    (reachable : (system stock).Reachable anyStep s) (e : Nat) :
    s.history.countP (·.publishes e) ≤ s.history.countP (·.wins e) ∧
    s.history.countP (·.wins e) ≤ s.history.countP (·.claims e) ∧
    s.history.countP (·.claims e) ≤ 1 + s.history.countP (·.recovers e) ∧
    ((∀ startedAt, .claimed e startedAt ∈ s.history →
        ∃ time, .markedSent e time ∈ s.history ∧ time < startedAt + 30000) →
      s.history.countP (·.publishes e) ≤ 1) := by
  have accounts := table_accounts (outbox_reachable reachable).2 e
  rw [State.outbox_logOf] at accounts
  -- counts in the table's log of `e` are counts in the whole history
  have logged {p : Event → Bool} (about : ∀ event, p event = true → event.writes e = true) :
      (s.history.filter (·.writes e)).countP p = s.history.countP p := by
    rw [List.countP_filter]
    refine List.countP_congr fun event _ => ?_
    simpa using about event
  have wins := logged (p := (·.wins e)) fun event => by
    cases event <;> simp [Event.wins, Event.writes]
  have claims := logged (p := (·.claims e)) fun event => by
    cases event <;> simp [Event.claims, Event.writes]
  have recoveries := logged (p := (·.recovers e)) fun event => by
    cases event <;> simp [Event.recovers, Event.writes]
  have published : s.history.countP (·.publishes e) ≤ s.history.countP (·.wins e) :=
    (credit_invariant reachable e).spent_le
  refine ⟨published, ?_, ?_, ?_⟩
  · refine List.countP_mono_left fun event _ won => ?_
    cases event <;> simp_all [Event.wins, Event.claims]
  · rw [← claims, ← recoveries]
    exact accounts.balance
  · intro prompt
    apply published.trans
    rw [← wins]
    -- two winning claims need a late one, and a prompt mark speaks against that
    rcases accounts.twice with once | ⟨startedAt, claimed, late⟩
    · exact once
    · obtain ⟨time, marked, early⟩ := prompt startedAt (List.mem_filter.mp claimed).1
      have after := late.2 time (List.mem_filter.mpr ⟨marked, by simp [Event.writes]⟩)
      exact absurd (early.trans after) (lt_irrefl _)

/-- Two instances fetch the same event; the one whose claim returns true publishes it and marks
it in time. -/
def twoPublishers : State :=
  .after anyStep (fun _ => some 1)
    [.create 0 ⟨1, 7, 1⟩ "a" [], .query 0 true, .query 0 true, .query 0 true, .query 0 true,
      .query 0 true, .openChannel 0, .openChannel 1, .publishPending 0, .publishPending 1,
      .publisherSettles 0 .ok, .publisherSettles 1 .ok, .publisherResumes 0 (some 0) false,
      .publisherResumes 1 (some 1) false, .publisherSettles 0 .ok, .publisherSettles 1 .ok,
      .publisherResumes 0 (some 0) false, .publisherResumes 1 (some 1) false, .store 0,
      .publisherSettles 0 .ok, .publisherResumes 0 (some 0) false, .publisherSettles 0 .ok]

theorem twoPublishers_bounded :
    twoPublishers.history = [.markedSent 1 0, .published 1, .claimed 1 0] ∧
    twoPublishers.history.countP (·.publishes 1) ≤ 1 := by
  have history : twoPublishers.history = [.markedSent 1 0, .published 1, .claimed 1 0] := by decide
  refine ⟨history, (claims_bound_publications _ twoPublishers
    (State.after_reachable ..) 1).2.2.2 fun startedAt claimed => ⟨0, ?_, ?_⟩⟩
  · simp [history]
  · exact Nat.lt_of_lt_of_le (by decide) (Nat.le_add_left 30000 startedAt)

end FlashSaleLab
