import FlashSaleLab.Outbox.Publications

/-!
# When an event is published once

A publisher may publish an event between the claim it won and its publication, and nobody else may
as long as the row is not PENDING again. So as long as the recovery takes back no row that a
publisher may still publish or has published, an event that may be published was not published yet.
-/
namespace FlashSaleLab

open PrismaOutboxRepository Transition

/-- The event was published, or a publisher is about to publish it. -/
def Touched (s : State) (e : Nat) : Prop :=
  .published e ∈ s.history ∨ ∃ host, MayPublish s e host

structure SingleInv (s : State) (e : Nat) : Prop where
  unpublished : ∀ host, MayPublish s e host → .published e ∉ s.history
  one : ∀ host other, MayPublish s e host → MayPublish s e other → host = other
  listed : Touched s e → ∃ row ∈ s.db.outboxEvents, row.id = e
  taken : Touched s e → ∀ row ∈ s.db.outboxEvents, row.id = e → row.status ≠ .pending

section Steps

variable {stock : Int → Option Nat} {s s' : State} {a : Action} {e : Nat}

/-- A step that hands out no new right to publish `e`, and after which no row is PENDING again that
was touched. -/
theorem SingleInv.quiet (inv : SingleInv s e)
    (fewer : ∀ host, MayPublish s' e host → MayPublish s e host)
    (silent : .published e ∈ s'.history → .published e ∈ s.history)
    (grows : ∀ row ∈ s.db.outboxEvents, ∃ row' ∈ s'.db.outboxEvents, row'.id = row.id)
    (waits : ∀ row' ∈ s'.db.outboxEvents, row'.status = .pending → Touched s row'.id →
      ∃ row ∈ s.db.outboxEvents, row.id = row'.id ∧ row.status = .pending) : SingleInv s' e := by
  have before (touched : Touched s' e) : Touched s e :=
    touched.imp silent fun ⟨host, may⟩ => ⟨host, fewer host may⟩
  constructor
  · exact fun host may noted => inv.unpublished host (fewer host may) (silent noted)
  · exact fun host other may may' => inv.one host other (fewer host may) (fewer other may')
  · intro touched
    obtain ⟨row, present, own⟩ := inv.listed (before touched)
    obtain ⟨row', present', same⟩ := grows row present
    exact ⟨row', present', same.trans own⟩
  · rintro touched row' present' rfl pending
    obtain ⟨row, present, own, was⟩ := waits row' present' pending (before touched)
    exact inv.taken (before touched) row present own was

/-- Nothing about the outbox changes but what the history tells of other things. -/
theorem SingleInv.same (inv : SingleInv s e) (publishers : s'.publishers = s.publishers)
    (rows : s'.db.outboxEvents = s.db.outboxEvents)
    (silent : .published e ∈ s'.history → .published e ∈ s.history) : SingleInv s' e := by
  apply inv.quiet
  · rintro host ⟨event, rest, suspended, own⟩
    exact ⟨event, rest, publishers ▸ suspended, own⟩
  · exact silent
  · exact fun row present => ⟨row, rows ▸ present, rfl⟩
  · exact fun row' present' pending _ => ⟨row', rows ▸ present', rfl, pending⟩

/-- A publisher goes on without a right to publish `e`. -/
theorem SingleInv.moved (inv : SingleInv s e) {mover : InstanceId} {publisher : Publisher}
    (publishers : s'.publishers = Function.update s.publishers mover publisher)
    (without : ∀ event rest, publisher.pc = .claimed event rest (.resolved true) → event.id ≠ e)
    (silent : .published e ∈ s'.history → .published e ∈ s.history)
    (grows : ∀ row ∈ s.db.outboxEvents, ∃ row' ∈ s'.db.outboxEvents, row'.id = row.id)
    (waits : ∀ row' ∈ s'.db.outboxEvents, row'.status = .pending →
      ∃ row ∈ s.db.outboxEvents, row.id = row'.id ∧ row.status = .pending) : SingleInv s' e := by
  apply inv.quiet _ silent grows
  · exact fun row' present' pending _ => waits row' present' pending
  · intro host may
    rcases mayPublish_moved publishers may with ⟨_, event, rest, suspended, own⟩ | ⟨_, before⟩
    · exact absurd own (without event rest suspended)
    · exact before

/-- Rows that keep their identity keep their id. -/
theorem row_of_identity {rows rows' : List OutboxEvent}
    (same : rows'.map identity = rows.map identity) {row : OutboxEvent} (present : row ∈ rows) :
    ∃ row' ∈ rows', row'.id = row.id := by
  have listed : identity row ∈ rows'.map identity := same ▸ List.mem_map_of_mem present
  obtain ⟨row', present', identical⟩ := List.mem_map.mp listed
  exact ⟨row', present', congrArg Prod.fst identical⟩

/-- An update leaves every id, and makes no row PENDING if its data does not. -/
theorem updateMany_waits (rows : List OutboxEvent) (cond : OutboxEvent → Bool)
    (data : OutboxEvent → OutboxEvent) (kept : ∀ row, (data row).id = row.id)
    (busy : ∀ row, (data row).status ≠ .pending) :
    (∀ row ∈ rows, ∃ row' ∈ (updateMany rows cond data).1, row'.id = row.id) ∧
    ∀ row' ∈ (updateMany rows cond data).1, row'.status = .pending →
      ∃ row ∈ rows, row.id = row'.id ∧ row.status = .pending := by
  constructor
  · intro row present
    refine ⟨_, mem_updateMany.mpr ⟨row, present, rfl⟩, ?_⟩
    split
    · exact kept row
    · rfl
  · intro row' present' pending
    obtain ⟨row, present, rfl⟩ := mem_updateMany.mp present'
    split at pending
    · exact absurd pending (busy row)
    next unmatched =>
      rw [if_neg unmatched]
      exact ⟨row, present, rfl, pending⟩

theorem claim_grows (id : Nat) (startedAt : Time) {rows : List OutboxEvent} :
    ∀ row ∈ rows, ∃ row' ∈ (claim rows id startedAt).1, row'.id = row.id :=
  (updateMany_waits rows _ (·.claimed startedAt) (fun _ => rfl)
    (by simp [OutboxEvent.claimed])).1

theorem claim_waits (id : Nat) (startedAt : Time) {rows : List OutboxEvent} :
    ∀ row' ∈ (claim rows id startedAt).1, row'.status = .pending →
      ∃ row ∈ rows, row.id = row'.id ∧ row.status = .pending :=
  (updateMany_waits rows _ (·.claimed startedAt) (fun _ => rfl)
    (by simp [OutboxEvent.claimed])).2

/-- A claim that won found a row nobody had touched. -/
theorem SingleInv.claimed {event : PendingOutboxEvent} {startedAt : Time}
    (inv : SingleInv s event.id) {mover : InstanceId} {publisher : Publisher}
    (won : (claim s.db.outboxEvents event.id startedAt).2 = true)
    (publishers : s'.publishers = Function.update s.publishers mover publisher)
    (table : s'.db.outboxEvents = (claim s.db.outboxEvents event.id startedAt).1)
    (history : s'.history = .claimed event.id startedAt :: s.history) : SingleInv s' event.id := by
  obtain ⟨row, present, own, pending⟩ := claim_won won
  have untouched : ¬Touched s event.id := fun touched => inv.taken touched row present own pending
  have silent : .published event.id ∉ s'.history := by
    rw [history, List.mem_cons]
    rintro (noted | noted)
    · cases noted
    · exact untouched (Or.inl noted)
  have holder {host : InstanceId} (may : MayPublish s' event.id host) : host = mover := by
    rcases mayPublish_moved publishers may with ⟨same, _⟩ | ⟨_, before⟩
    · exact same
    · exact absurd (Or.inr ⟨host, before⟩) untouched
  constructor
  · exact fun _ _ => silent
  · exact fun host other may may' => (holder may).trans (holder may').symm
  · rintro -
    rw [table]
    obtain ⟨row', present', same⟩ := claim_grows event.id startedAt row present
    exact ⟨row', present', same.trans own⟩
  · rintro - row' present' same waits
    rw [table] at present'
    -- it is one the claim left alone, though it matches
    obtain ⟨old, _, rfl⟩ := mem_updateMany.mp present'
    split at waits
    · cases waits
    next unmatched =>
      rw [if_neg unmatched] at same
      simp [same, waits] at unmatched

/-- The end of a publisher's awaited call. -/
theorem SingleInv.settled (inv : SingleInv s e) {mover : InstanceId} {publisher : Publisher}
    {events : List Event} {rows : List OutboxEvent} {pc : PublisherPc}
    (moved : OutboxPublisherService.Settles s.db.outboxEvents s.now (s.publishers mover) s.stored
      rows events pc)
    (suspended : publisher.pc = pc)
    (publishers : s'.publishers = Function.update s.publishers mover publisher)
    (table : s'.db.outboxEvents = rows) (history : s'.history = events ++ s.history) :
    SingleInv s' e := by
  have unchanged (same : rows = s.db.outboxEvents) :
      (∀ row ∈ s.db.outboxEvents, ∃ row' ∈ s'.db.outboxEvents, row'.id = row.id) ∧
      ∀ row' ∈ s'.db.outboxEvents, row'.status = .pending →
        ∃ row ∈ s.db.outboxEvents, row.id = row'.id ∧ row.status = .pending := by
    rw [table, same]
    exact ⟨fun row present => ⟨row, present, rfl⟩, fun row present pending =>
      ⟨row, present, rfl, pending⟩⟩
  cases moved with
  | claimed event rest startedAt _ won =>
    by_cases same : event.id = e
    · subst same
      exact inv.claimed won publishers table history
    · apply inv.moved publishers
      · intro other tail again
        cases suspended.symm.trans again
        exact same
      · simp [history]
      · rw [table]
        exact claim_grows event.id startedAt
      · rw [table]
        exact claim_waits event.id startedAt
  | claimLost event rest startedAt =>
    apply inv.moved publishers
    · intro other tail again
      cases suspended.symm.trans again
    · simp [history]
    · rw [table]
      exact claim_grows event.id startedAt
    · rw [table]
      exact claim_waits event.id startedAt
  | claimMissed event rest startedAt reply _ missed =>
    apply inv.moved publishers _ (by simp [history]) (unchanged rfl).1 (unchanged rfl).2
    intro other tail again
    cases suspended.symm.trans again
    exact absurd rfl missed
  | marked event rest sentAt rows reply _ updated =>
    rw [markAsSent_eq_some updated] at table
    have left := updateMany_waits s.db.outboxEvents (·.id = event.id) (·.markedSent sentAt)
      (fun _ => rfl) (by simp [OutboxEvent.markedSent])
    apply inv.moved publishers
    · intro other tail again
      cases suspended.symm.trans again
    · simp [history]
    · rw [table]
      exact left.1
    · rw [table]
      exact left.2
  | _ =>
    apply inv.moved publishers _ (by simp [history]) (unchanged rfl).1 (unchanged rfl).2
    intro other tail again
    cases suspended.symm.trans again

/-- The publication uses the only right there is. -/
theorem SingleInv.published {event : PendingOutboxEvent} {rest : List PendingOutboxEvent}
    {copy : CopyId} (inv : SingleInv s e) {mover : InstanceId} {publisher : Publisher}
    (suspended : (s.publishers mover).pc = .claimed event rest (.resolved true))
    (moved : publisher.pc = .publishing event rest copy)
    (publishers : s'.publishers = Function.update s.publishers mover publisher)
    (table : s'.db.outboxEvents = s.db.outboxEvents)
    (history : s'.history = .published event.id :: s.history) : SingleInv s' e := by
  have before {host : InstanceId} (may : MayPublish s' e host) :
      host ≠ mover ∧ MayPublish s e host := by
    rcases mayPublish_moved publishers may with ⟨_, _, _, still, _⟩ | old
    · cases moved.symm.trans still
    · exact old
  have own (same : event.id = e) : MayPublish s e mover := ⟨event, rest, suspended, same⟩
  have touched (after : Touched s' e) : Touched s e := by
    rcases after with noted | ⟨host, may⟩
    · rw [history, List.mem_cons] at noted
      rcases noted with now | old
      · cases now
        exact Or.inr ⟨mover, own rfl⟩
      · exact Or.inl old
    · exact Or.inr ⟨host, (before may).2⟩
  constructor
  · intro host may noted
    obtain ⟨other, may⟩ := before may
    rw [history, List.mem_cons] at noted
    rcases noted with now | old
    · cases now
      exact other (inv.one host mover may (own rfl))
    · exact inv.unpublished host may old
  · exact fun host other may may' => inv.one host other (before may).2 (before may').2
  · exact fun after => table ▸ inv.listed (touched after)
  · exact fun after => table ▸ inv.taken (touched after)

theorem SingleInv.step (inv : ∀ e, SingleInv s e) (calls : CallsInv s)
    (keyed : (s.db.outboxEvents.map (·.id)).Nodup) (keyed' : (s'.db.outboxEvents.map (·.id)).Nodup)
    (taken : s.step a = some s')
    (recovers : ∀ calledAt, a = .recoverStuckProcessing calledAt → ∀ row ∈ s.db.outboxEvents,
      stuck calledAt row = true → ¬Touched s row.id) : SingleInv s' e := by
  obtain ⟨t, acts, rfl⟩ := State.step_cases taken
  cases acts with
  | queried id ok call db pc found executed =>
    rcases executed.outboxEvents (calls id call found) with same | ⟨input, n, added⟩
    · exact (inv e).same rfl same fun noted => noted
    · have table : db.outboxEvents = s.db.outboxEvents ++ [create input n] := added
      refine (inv e).quiet (fun _ may => may) (fun noted => noted) ?_ ?_
      · intro row present
        exact ⟨row, table ▸ List.mem_append_left _ present, rfl⟩
      · intro row' present' pending touched
        change row' ∈ db.outboxEvents at present'
        rw [table] at present'
        rcases List.mem_append.mp present' with old | new
        · exact ⟨row', old, rfl, pending⟩
        · -- a new row's id is none of the old ones
          obtain ⟨row, present, same⟩ := (inv row'.id).listed touched
          change (db.outboxEvents.map (·.id)).Nodup at keyed'
          rw [table, List.map_append] at keyed'
          refine absurd same ((List.nodup_append.mp keyed').2.2 _ (List.mem_map_of_mem present) _ ?_)
          rw [List.mem_singleton.mp new]
          exact List.mem_cons_self
  | started host publisher finding =>
    refine (inv e).moved rfl ?_ ?_ ?_ ?_
    · intro event rest suspended
      cases finding.symm.trans suspended
    · exact fun noted => noted
    · exact fun row present => ⟨row, present, rfl⟩
    · exact fun row present pending => ⟨row, present, rfl, pending⟩
  | crashed host =>
    refine (inv e).moved rfl ?_ ?_ ?_ ?_
    · intro event rest suspended
      cases suspended
    · exact fun noted => noted
    · exact fun row present => ⟨row, present, rfl⟩
    · exact fun row present pending => ⟨row, present, rfl, pending⟩
  | publisherSettled host result rows publisher settled =>
    exact (inv e).settled (OutboxPublisherService.settle_cases keyed settled) rfl rfl rfl rfl
  | publisherAdvanced host channel sendThrows segment resumed silent =>
    have moved := OutboxPublisherService.resume_cases resumed
    rw [silent] at moved
    refine (inv e).moved rfl ?_ ?_ ?_ ?_
    · intro event rest suspended
      rw [suspended] at moved
      cases moved
    · exact fun noted => noted
    · exact fun row present => ⟨row, present, rfl⟩
    · exact fun row present pending => ⟨row, present, rfl, pending⟩
  | published host channel sendThrows segment message resumed sent =>
    have moved := OutboxPublisherService.resume_cases resumed
    rw [sent] at moved
    generalize paused : segment.publisher.pc = pc at moved
    cases moved with
    | published event rest suspended =>
      exact (inv e).published suspended paused rfl rfl (by simp [PublisherPc.published?])
  | recovered calledAt past =>
    refine (inv e).quiet (fun _ may => may) ?_ ?_ ?_
    · intro noted
      rcases List.mem_append.mp noted with new | old
      · simp at new
      · exact old
    · intro row present
      obtain ⟨row', present', same⟩ := row_of_identity (recoverStuckProcessing_identity _ _) present
      exact ⟨row', present', same⟩
    · intro row' present' pending touched
      obtain ⟨row, present, rfl⟩ := mem_updateMany.mp present'
      by_cases late : stuck calledAt row = true
      · rw [if_pos late] at touched
        exact absurd touched (recovers calledAt rfl row present late)
      · rw [if_neg late] at pending ⊢
        exact ⟨row, present, rfl, pending⟩
  | handlerSettled =>
    refine (inv e).same rfl rfl fun noted => ?_
    rcases List.mem_append.mp noted with new | old
    · exact absurd (handlerEvents_foreign _ new) (by simp [Event.outboxId?])
    · exact old
  | _ => exact (inv e).same rfl rfl fun noted => noted

end Steps

end FlashSaleLab
