import FlashSaleLab.Continuations
import FlashSaleLab.Outbox.Batches
import FlashSaleLab.Outbox.Publications

/-!
# The outbox backlog can be worked off

Whatever happened before, one instance whose calls succeed from now on finishes the cycle it is
in, takes back what others left PROCESSING and gets one more event to SENT in each cycle after
that.
-/
namespace FlashSaleLab

open PrismaOutboxRepository OutboxPublisherService Transition

/-! ### A publisher's cycle ends -/

/-- A publisher counts the cycle it is in, and nothing else. -/
def Publisher.Guarded (publisher : Publisher) : Prop :=
  publisher.activeExecutions = if publisher.pc = .idle then 0 else 1

def GuardInv (s : State) : Prop := ∀ host, (s.publishers host).Guarded

/-- Bounds the awaits and segments that are left of a cycle: six for each event. -/
def PublisherPc.rank : PublisherPc → Nat
  | .idle => 0
  | .finding => 6 * batchSize + 2
  | .found (.resolved events) => 6 * events.length + 1
  | .found .rejected => 1
  | .claiming _ rest _ => 6 * rest.length + 6
  | .claimed _ rest _ => 6 * rest.length + 5
  | .publishing _ rest _ => 6 * rest.length + 4
  | .published _ rest _ => 6 * rest.length + 3
  | .marking _ rest _ => 6 * rest.length + 2
  | .marked rest _ => 6 * rest.length + 1

namespace OutboxPublisherService

section Publisher

variable {rows rows' : List OutboxEvent} {publisher publisher' : Publisher} {now : Time}
  {stored : CopyId → Bool} {result : CallResult} {unavailable : Bool} {fresh : CopyId}
  {segment : PublisherSegment} {events : List PendingOutboxEvent}

theorem finish_guarded (guarded : publisher.Guarded) : (finish publisher).Guarded := by
  unfold Publisher.Guarded finish at *
  split at guarded <;> simp [guarded]

theorem next_guarded (guarded : publisher.Guarded) (busy : publisher.pc ≠ .idle) :
    (next publisher now events).Guarded := by
  cases events with
  | nil => exact finish_guarded guarded
  | cons event rest =>
    unfold Publisher.Guarded at guarded
    rw [if_neg busy] at guarded
    simp [Publisher.Guarded, next, guarded]

theorem next_rank (events : List PendingOutboxEvent) :
    (next publisher now events).pc.rank ≤ 6 * events.length := by
  cases events with
  | nil => exact Nat.zero_le _
  | cons event rest => simp only [next, PublisherPc.rank, List.length_cons]; omega

/-- The batch is no longer than the limit. -/
theorem findPending_length (found : findPending rows batchSize = .ok events) :
    events.length ≤ batchSize := by
  have same := congrArg List.length (findPending_ids found)
  simp only [List.length_map] at same
  rw [same]
  exact List.length_take_le _ _

theorem settle_guarded (guarded : publisher.Guarded)
    (settled : settle rows publisher stored result = some (rows', publisher')) :
    publisher'.Guarded := by
  unfold Publisher.Guarded at *
  unfold settle at settled
  split at settled
  next suspended => cases settled; simpa [suspended] using guarded
  next suspended => cases settled; simpa [suspended] using guarded
  next suspended =>
    cases result with
    | ok =>
      simp only at settled
      split at settled
      · cases settled; simpa [suspended] using guarded
      · cases settled
    | failed applied => cases settled; simpa [suspended] using guarded
  next suspended =>
    split at settled <;> cases settled <;> simpa [suspended] using guarded
  · cases settled

theorem resume_guarded (guarded : publisher.Guarded)
    (resumed : resume publisher now unavailable fresh = some segment) :
    segment.publisher.Guarded := by
  have busy : publisher.pc ≠ .idle := by
    intro idle
    simp [resume, idle] at resumed
  unfold resume at resumed
  split at resumed
  · cases resumed; exact next_guarded guarded busy
  · cases resumed; exact finish_guarded guarded
  · split at resumed
    · cases resumed; exact next_guarded guarded busy
    · split at resumed
      · cases resumed; exact next_guarded guarded busy
      · split at resumed
        · cases resumed; exact finish_guarded guarded
        · cases resumed; simpa [Publisher.Guarded, busy] using guarded
  · cases resumed; exact finish_guarded guarded
  · cases resumed; simpa [Publisher.Guarded, busy] using guarded
  · cases resumed; exact finish_guarded guarded
  · cases resumed; exact next_guarded guarded busy
  · cases resumed; exact finish_guarded guarded
  · cases resumed

theorem settle_rank (settled : settle rows publisher stored result = some (rows', publisher')) :
    publisher'.pc.rank < publisher.pc.rank := by
  unfold settle at settled
  split at settled
  next suspended =>
    cases settled
    rw [suspended]
    cases found : findPending rows batchSize with
    | error text => simp only [PublisherPc.rank]; omega
    | ok events =>
      have few := findPending_length found
      cases result with
      | ok => simp only [CallResult.settle, PublisherPc.rank]; omega
      | failed applied => simp only [CallResult.settle, PublisherPc.rank]; omega
  next suspended => cases settled; simp [suspended, PublisherPc.rank]
  next suspended =>
    cases result with
    | ok =>
      simp only at settled
      split at settled
      · cases settled; simp [suspended, PublisherPc.rank]
      · cases settled
    | failed applied => cases settled; simp [suspended, PublisherPc.rank]
  next suspended =>
    split at settled <;> cases settled <;> simp [suspended, PublisherPc.rank]
  · cases settled

theorem resume_rank (resumed : resume publisher now unavailable fresh = some segment) :
    segment.publisher.pc.rank < publisher.pc.rank := by
  have passes (rest : List PendingOutboxEvent) {bound : Nat} (room : 6 * rest.length < bound) :
      (next publisher now rest).pc.rank < bound :=
    Nat.lt_of_le_of_lt (next_rank rest) room
  unfold resume at resumed
  split at resumed
  next events suspended =>
    cases resumed
    rw [suspended]
    apply passes
    simp only [PublisherPc.rank]
    omega
  next suspended => cases resumed; simp [suspended, finish, PublisherPc.rank]
  next event rest claimed suspended =>
    rw [suspended]
    have room : 6 * rest.length < (PublisherPc.claimed event rest (.resolved claimed)).rank := by
      simp only [PublisherPc.rank]
      omega
    split at resumed
    · cases resumed; exact passes rest room
    · split at resumed
      · cases resumed; exact passes rest room
      · split at resumed
        · cases resumed; simp [finish, PublisherPc.rank]
        · cases resumed; simp [PublisherPc.rank]
  next suspended => cases resumed; simp [suspended, finish, PublisherPc.rank]
  next suspended => cases resumed; simp [suspended, PublisherPc.rank]
  next suspended => cases resumed; simp [suspended, finish, PublisherPc.rank]
  next rest reply suspended =>
    cases resumed
    rw [suspended]
    apply passes
    simp only [PublisherPc.rank]
    omega
  next suspended => cases resumed; simp [suspended, finish, PublisherPc.rank]
  · cases resumed

end Publisher

end OutboxPublisherService

/-- A tick of the interval starts a cycle, or the instance is in one. -/
theorem publishPending_cases {s t : State} {host : InstanceId}
    (acted : s.act (.publishPending host) = some t) : t.publishers = s.publishers ∨
      ((s.publishers host).activeExecutions = 0 ∧
        t.publishers = Function.update s.publishers host ⟨1, .finding⟩) := by
  simp only [State.act, State.publishPending, OutboxPublisherService.publishPending] at acted
  by_cases busy : (s.publishers host).activeExecutions > 0
  · rw [if_pos busy] at acted
    cases acted
    exact Or.inl rfl
  · have none_ : (s.publishers host).activeExecutions = 0 := by omega
    rw [if_neg busy, none_] at acted
    cases acted
    exact Or.inr ⟨none_, rfl⟩

theorem GuardInv.update {s : State} (inv : GuardInv s) {host : InstanceId} {publisher : Publisher}
    (guarded : publisher.Guarded) {publishers : InstanceId → Publisher}
    (moved : publishers = Function.update s.publishers host publisher) (other : InstanceId) :
    (publishers other).Guarded := by
  rw [moved]
  by_cases same : other = host
  · rw [same, Function.update_self]
    exact guarded
  · rw [Function.update_of_ne same]
    exact inv other

theorem GuardInv.step {s s' : State} {a : Action} (inv : GuardInv s)
    (taken : s.step a = some s') : GuardInv s' := by
  obtain ⟨t, acted, rfl⟩ := Option.map_eq_some_iff.mp taken
  cases State.acts_of_act acted with
  | started host publisher finding =>
    intro other
    rcases publishPending_cases acted with same | ⟨_, started⟩
    · exact congrFun same other ▸ inv other
    · have cycle : Publisher.Guarded ⟨1, .finding⟩ := rfl
      exact inv.update cycle started other
  | publisherSettled host result rows publisher settled =>
    exact inv.update (settle_guarded (inv host) settled) rfl
  | publisherAdvanced host channel sendThrows segment resumed
  | published host channel sendThrows segment message resumed =>
    exact inv.update (resume_guarded (inv host) resumed) rfl
  | crashed host =>
    have restarted : Publisher.Guarded initial := rfl
    exact inv.update restarted rfl
  | _ => exact inv

theorem guard_invariant {stock : Int → Option Nat} {allowed : State → Action → Prop} {s : State}
    (reachable : (system stock).Reachable allowed s) : GuardInv s := by
  apply reachable.invariant (I := GuardInv)
  · rintro s rfl host
    rfl
  · exact fun s a s' _ inv _ taken => inv.step taken

/-! ### The moves of the instance that goes on -/

section Moves

variable {stock : Int → Option Nat} {lines : Lines} {s : State}

theorem publisher_settles {rows : List OutboxEvent} {publisher : Publisher} (result : CallResult)
    (permitted : result = .ok ∨ s.unconfirmable (s.publishers lines.host).pc)
    (settled : settle s.db.outboxEvents (s.publishers lines.host) s.stored result =
      some (rows, publisher)) :
    (system stock).CanReach (Serving lines) (fun s' => s'.publishers lines.host = publisher ∧
      s'.db.outboxEvents = rows ∧ s'.now = s.now) s := by
  have acted : ∃ t, s.act (.publisherSettles lines.host result) = some t ∧
      t.publishers lines.host = publisher ∧ t.db.outboxEvents = rows ∧ t.now = s.now := by
    simp only [State.act, State.publisherSettles, settled, Option.some.injEq, exists_eq_left']
    exact ⟨Function.update_self .., trivial, trivial⟩
  obtain ⟨t, acted, moved⟩ := acted
  exact reaches_act (a := .publisherSettles lines.host result) ⟨⟨rfl, permitted⟩, trivial⟩ acted
    moved

theorem publisher_resumes {segment : PublisherSegment} (open_ : lines.Open s)
    (resumed : resume (s.publishers lines.host) s.now false s.copies.length = some segment) :
    (system stock).CanReach (Serving lines) (fun s' =>
      s'.publishers lines.host = segment.publisher ∧
      s'.db.outboxEvents = s.db.outboxEvents ∧ (segment.sent ≠ none →
        ∃ copy, s'.copies[s.copies.length]? = some copy ∧ copy.place = .wire ∧
          s'.channelStatus copy.channel = some .opened)) s := by
  have usable := open_.publisher
  have available : s.unavailable lines.host (some lines.publisher) false = false := by
    simp [State.unavailable, usable]
  have acted : ∃ t, s.act (.publisherResumes lines.host (some lines.publisher) false) = some t ∧
      t.publishers lines.host = segment.publisher ∧ t.db.outboxEvents = s.db.outboxEvents ∧
      (segment.sent ≠ none → ∃ copy, t.copies[s.copies.length]? = some copy ∧
        copy.place = .wire ∧ t.channelStatus copy.channel = some .opened) := by
    simp only [State.act, State.publisherResumes, available, resumed]
    cases segment.sent with
    | none => exact ⟨_, rfl, Function.update_self .., rfl, fun sent => absurd rfl sent⟩
    | some message =>
      refine ⟨_, rfl, Function.update_self .., rfl, fun _ => ?_⟩
      refine ⟨⟨message, .notification, lines.publisher, none, s.now, .wire⟩, ?_, rfl, ?_⟩
      · exact List.getElem?_concat_length
      · simp [State.channelStatus, usable]
  obtain ⟨t, acted, moved⟩ := acted
  exact reaches_act (a := .publisherResumes lines.host (some lines.publisher) false)
    ⟨⟨rfl, available⟩, rfl⟩ acted moved

/-- The broker stores what is on the wire of an open channel. -/
theorem broker_stores {id : CopyId} {copy : Copy} (found : s.copies[id]? = some copy)
    (wire : copy.place = .wire) (usable : s.channelStatus copy.channel = some .opened) :
    (system stock).CanReach (Serving lines) (fun s' =>
      s'.copies[id]? = some { copy with place := .ready copy.queue s.now } ∧
      s'.publishers = s.publishers ∧ s'.channels = s.channels ∧ s'.handlers = s.handlers) s := by
  have stored : s.copies.store s.channels id s.now =
      some (s.copies.move id (.ready copy.queue s.now)) := by
    have open_ : (s.channels[copy.channel]?).map (·.status) = some .opened := usable
    simp [Copies.store, found, wire, open_]
  apply reaches_act (a := .store id) ⟨trivial, trivial⟩ (t := { s with
    copies := s.copies.move id (.ready copy.queue s.now) })
  · simp [State.act, State.withCopies, stored]
  · refine ⟨?_, rfl, rfl, rfl⟩
    simp only [Copies.move]
    rw [Registry.modify_of found, if_pos rfl]

/-- A confirmation that can still come does. -/
theorem publisher_confirmed {event : PendingOutboxEvent} {rest : List PendingOutboxEvent}
    {id : CopyId} {copy : Copy}
    (suspended : (s.publishers lines.host).pc = .publishing event rest id)
    (found : s.copies[id]? = some copy)
    (possible : copy.place.stored = true ∨ s.channelStatus copy.channel = some .opened) :
    (system stock).CanReach (Serving lines) (fun s' =>
      (s'.publishers lines.host).pc = .published event rest (.resolved ())) s := by
  have confirmed (s' : State) (same : s'.publishers lines.host = s.publishers lines.host)
      (stored : s'.stored id = true) : (system stock).CanReach (Serving lines) (fun later =>
        (later.publishers lines.host).pc = .published event rest (.resolved ())) s' := by
    have settled : settle s'.db.outboxEvents (s'.publishers lines.host) s'.stored .ok =
        some (s'.db.outboxEvents,
          { s'.publishers lines.host with pc := .published event rest (.resolved ()) }) := by
      simp [settle, same, suspended, stored]
    apply (publisher_settles .ok (Or.inl rfl) settled).mono
    rintro later _ ⟨moved, _⟩
    rw [moved]
  by_cases already : copy.place.stored = true
  · exact confirmed s rfl (stored_iff.mpr ⟨copy, found, already⟩)
  · have usable := possible.resolve_left already
    have wire : copy.place = .wire := by
      cases place : copy.place <;> simp [place, Place.stored] at already ⊢
    apply (broker_stores found wire usable).trans
    rintro s' _ ⟨present, same, _⟩
    exact confirmed s' (congrFun same lines.host) (stored_iff.mpr ⟨_, present, rfl⟩)

/-- A publisher in a cycle gets closer to its end. -/
theorem publisher_moves (reachable : (system stock).Reachable anyStep s)
    (open_ : lines.Open s) (busy : (s.publishers lines.host).pc ≠ .idle) :
    (system stock).CanReach (Serving lines)
      (fun s' => (s'.publishers lines.host).pc.rank < (s.publishers lines.host).pc.rank) s := by
  have settles (result : CallResult)
      (permitted : result = .ok ∨ s.unconfirmable (s.publishers lines.host).pc)
      (possible : (settle s.db.outboxEvents (s.publishers lines.host) s.stored result).isSome) :
      (system stock).CanReach (Serving lines)
        (fun s' => (s'.publishers lines.host).pc.rank < (s.publishers lines.host).pc.rank) s := by
    obtain ⟨⟨rows, publisher⟩, settled⟩ := Option.isSome_iff_exists.mp possible
    apply (publisher_settles result permitted settled).mono
    rintro later _ ⟨moved, _⟩
    rw [moved]
    exact settle_rank settled
  have resumes (possible : (resume (s.publishers lines.host) s.now false s.copies.length).isSome) :
      (system stock).CanReach (Serving lines)
        (fun s' => (s'.publishers lines.host).pc.rank < (s.publishers lines.host).pc.rank) s := by
    obtain ⟨segment, resumed⟩ := Option.isSome_iff_exists.mp possible
    apply (publisher_resumes open_ resumed).mono
    rintro later _ ⟨moved, _⟩
    rw [moved]
    exact resume_rank resumed
  cases suspended : (s.publishers lines.host).pc with
  | idle => exact absurd suspended busy
  | finding => exact suspended ▸ settles .ok (Or.inl rfl) (by simp [settle, suspended])
  | claiming event rest startedAt =>
    exact suspended ▸ settles .ok (Or.inl rfl) (by simp [settle, suspended])
  | marking event rest sentAt =>
    apply suspended ▸ settles .ok (Or.inl rfl)
    simp only [settle, suspended]
    split <;> rfl
  | publishing event rest id =>
    obtain ⟨copy, found, _⟩ :=
      ((announced_invariant reachable).hands lines.host).publishing event rest id suspended
    by_cases possible : copy.place.stored = true ∨ s.channelStatus copy.channel = some .opened
    · apply (publisher_confirmed suspended found possible).mono
      rintro later _ confirmed
      simp [confirmed, PublisherPc.rank]
    · -- the message is lost on its way; the publisher hears of it
      rw [not_or] at possible
      have wire : copy.place = .wire := by
        cases place : copy.place <;> simp [place, Place.stored] at possible ⊢
      apply suspended ▸ settles (.failed false)
        (Or.inr ⟨event, rest, id, copy, suspended, found, wire, possible.2⟩)
      simp [settle, suspended]
  | found reply => cases reply <;> exact suspended ▸ resumes (by simp [resume, suspended])
  | claimed event rest reply =>
    cases reply with
    | resolved claimed =>
      apply suspended ▸ resumes
      simp only [resume, suspended]
      split_ifs <;> rfl
    | rejected => exact suspended ▸ resumes (by simp [resume, suspended])
  | published event rest reply =>
    cases reply <;> exact suspended ▸ resumes (by simp [resume, suspended])
  | marked rest reply => cases reply <;> exact suspended ▸ resumes (by simp [resume, suspended])

/-- The instance gets to the end of the cycle it is in. -/
theorem cycle_ends (reachable : (system stock).Reachable anyStep s)
    (open_ : lines.Open s) :
    (system stock).CanReach (Serving lines)
      (fun s' => (s'.publishers lines.host).pc = .idle) s := by
  apply System.CanReach.measure fun s' => (s'.publishers lines.host).pc.rank
  intro s' steps
  by_cases idle : (s'.publishers lines.host).pc = .idle
  · exact .here (Or.inl idle)
  · apply (publisher_moves (reachable_after reachable steps) (open_.after steps) idle).mono
    exact fun later _ lower => Or.inr lower

end Moves

/-! ### One event more is SENT -/

/-- The committed row of event `e` is SENT. -/
def SentRow (s : State) (e : Nat) : Prop :=
  ∃ row, rowOf s.db.outboxEvents e = some row ∧ row.status = .sent

/-- The events whose rows are not SENT. -/
def State.unsent (s : State) : Finset Nat :=
  ((s.db.outboxEvents.filter (·.status ≠ .sent)).map (·.id)).toFinset

section Served

variable {stock : Int → Option Nat} {lines : Lines} {s s' : State} {e : Nat}

theorem keyed_rows (reachable : (system stock).Reachable anyStep s) :
    (s.db.outboxEvents.map (·.id)).Nodup :=
  (sales_invariant reachable).2.eventIds.nodup

theorem SentRow.step {a : Action} (reachable : (system stock).Reachable anyStep s)
    (sent : SentRow s e) (taken : s.step a = some s') : SentRow s' e := by
  obtain ⟨clock, table⟩ := outbox_reachable reachable
  obtain ⟨calls, ledger⟩ := sales_invariant reachable
  have nodup := keyed_rows (reachable.step trivial taken)
  exact sent_steps table
    ((outboxStep calls ledger taken).refines clock (State.clock_step taken) nodup) sent

theorem SentRow.after (reachable : (system stock).Reachable anyStep s)
    (steps : (system stock).Steps (Serving lines) s s') (sent : SentRow s e) : SentRow s' e :=
  reachable.stable (P := fun s => SentRow s e)
    (fun _ _ _ before held _ taken => held.step before taken)
    (steps.mono fun _ _ _ => trivial) sent

theorem mem_unsent (nodup : (s.db.outboxEvents.map (·.id)).Nodup) :
    e ∈ s.unsent ↔ ∃ row, rowOf s.db.outboxEvents e = some row ∧ row.status ≠ .sent := by
  simp only [State.unsent, List.mem_toFinset, List.mem_map, List.mem_filter, decide_eq_true_eq]
  constructor
  · rintro ⟨row, ⟨listed, unsent⟩, rfl⟩
    exact ⟨row, rowOf_mem nodup listed, unsent⟩
  · rintro ⟨row, found, unsent⟩
    exact ⟨row, ⟨(rowOf_some found).1, unsent⟩, (rowOf_some found).2⟩

theorem unsent_eq_empty :
    s.unsent = ∅ ↔ ∀ row ∈ s.db.outboxEvents, row.status = .sent := by
  simp [State.unsent, List.filter_eq_nil_iff]

/-- No event is added, and none that is SENT comes back. -/
theorem unsent_after (reachable : (system stock).Reachable anyStep s)
    (steps : (system stock).Steps (Serving lines) s s') : s'.unsent ⊆ s.unsent := by
  intro e listed
  have nodup := keyed_rows reachable
  obtain ⟨later, found, unsent⟩ :=
    (mem_unsent (keyed_rows (reachable_after reachable steps))).mp listed
  obtain ⟨member, rfl⟩ := rowOf_some found
  obtain ⟨row, present, same⟩ := row_stays (identities_after steps).symm member
  have ids : row.id = later.id := congrArg Prod.fst same
  apply (mem_unsent nodup).mpr
  refine ⟨row, ids ▸ rowOf_mem nodup present, fun sent => unsent ?_⟩
  -- a row that was SENT would still be
  obtain ⟨row', found', sent'⟩ := SentRow.after reachable steps
    (e := later.id) ⟨row, ids ▸ rowOf_mem nodup present, sent⟩
  cases found.symm.trans found'
  exact sent'

/-- All events are announcements, and their payloads pass the checks. -/
theorem toPending_reachable (reachable : (system stock).Reachable anyStep s) {row : OutboxEvent}
    (listed : row ∈ s.db.outboxEvents) :
    row.type = "ORDER_NOTIFICATION" ∧ ∃ event, toPending row = .ok event := by
  obtain ⟨order, _, type, requestId, traceContext, payload⟩ :=
    Registry.forall₂_mem_right (sales_invariant reachable).2.paired (List.mem_map_of_mem listed)
  simp only [identity] at type payload
  refine ⟨type, ?_⟩
  unfold toPending
  rw [payload]
  exact ⟨_, rfl⟩

theorem findPending_reachable (reachable : (system stock).Reachable anyStep s) :
    ∃ events, findPending s.db.outboxEvents batchSize = .ok events := by
  apply Throwing.mapM_returns
  intro row fetched
  exact (toPending_reachable reachable (mem_batch fetched).1).2

/-- What a publisher has in hand is the row of an announcement. -/
theorem event_in_hand (reachable : (system stock).Reachable anyStep s)
    (host : InstanceId) {event : PendingOutboxEvent}
    (inHand : event ∈ (s.publishers host).pc.events) :
    event.type = "ORDER_NOTIFICATION" ∧ ∃ row ∈ s.db.outboxEvents, row.id = event.id := by
  obtain ⟨row, listed, checked⟩ := ((announced_invariant reachable).hands host).rows event inHand
  obtain ⟨sameId, sameType, _⟩ := toPending_ok checked
  exact ⟨sameType.trans (toPending_reachable reachable listed).1, row, listed, sameId.symm⟩

theorem event_marked (reachable : (system stock).Reachable anyStep s)
    {event : PendingOutboxEvent} {rest : List PendingOutboxEvent} {sentAt : Time}
    (suspended : (s.publishers lines.host).pc = .marking event rest sentAt) :
    (system stock).CanReach (Serving lines) (fun s' => SentRow s' event.id) s := by
  obtain ⟨_, row, listed, sameId⟩ :=
    event_in_hand reachable lines.host (by rw [suspended]; exact .head _)
  have marked := sameId ▸ markAsSent_present listed sentAt
  apply (publisher_settles .ok (Or.inl rfl)
    (by simp only [settle, suspended, marked]; rfl)).mono
  rintro later _ ⟨_, rows, _⟩
  rw [CallResult.applied, if_pos rfl] at rows
  refine ⟨row.markedSent sentAt, ?_, rfl⟩
  rw [rows, rowOf_updateMany (by exact fun _ => rfl), ← sameId,
    rowOf_mem (keyed_rows reachable) listed]
  simp [OutboxEvent.markedSent]

/-- An event whose claim its publisher won is published, confirmed and marked. -/
theorem event_served (reachable : (system stock).Reachable anyStep s)
    (open_ : lines.Open s) {event : PendingOutboxEvent} {rest : List PendingOutboxEvent}
    (suspended : (s.publishers lines.host).pc = .claimed event rest (.resolved true)) :
    (system stock).CanReach (Serving lines) (fun s' => SentRow s' event.id) s := by
  have type : event.type = "ORDER_NOTIFICATION" :=
    (event_in_hand reachable lines.host (by rw [suspended]; exact .head _)).1
  have resumed : resume (s.publishers lines.host) s.now false s.copies.length = some
      ⟨some (RabbitMqService.message event.payload.orderId event.payload.requestId),
        { s.publishers lines.host with pc := .publishing event rest s.copies.length }⟩ := by
    simp [resume, suspended, type]
  apply (publisher_resumes open_ resumed).trans
  rintro published steps ⟨moved, _, sent⟩
  obtain ⟨copy, found, _, sending⟩ := sent (by simp)
  have publishing :
      (published.publishers lines.host).pc = .publishing event rest s.copies.length := by
    rw [moved]
  apply (publisher_confirmed publishing found (Or.inr sending)).trans
  intro confirmed further waits
  have reachable' := reachable_after reachable (steps.trans further)
  have toMark : resume (confirmed.publishers lines.host) confirmed.now false
      confirmed.copies.length = some ⟨none, { confirmed.publishers lines.host with
        pc := .marking event rest confirmed.now }⟩ := by
    simp [resume, waits]
  apply (publisher_resumes (open_.after (steps.trans further)) toMark).trans
  rintro marking last ⟨moved, _⟩
  have suspended' : (marking.publishers lines.host).pc = .marking event rest confirmed.now := by
    rw [moved]
  exact event_marked (reachable_after reachable' last) suspended'

/-- From a claim of a PENDING row. -/
theorem event_claimed (reachable : (system stock).Reachable anyStep s)
    (open_ : lines.Open s) {event : PendingOutboxEvent} {rest : List PendingOutboxEvent}
    {startedAt : Time} {row : OutboxEvent}
    (suspended : (s.publishers lines.host).pc = .claiming event rest startedAt)
    (listed : row ∈ s.db.outboxEvents) (pending : row.status = .pending)
    (own : row.id = event.id) :
    (system stock).CanReach (Serving lines) (fun s' => SentRow s' event.id) s := by
  have won : (claim s.db.outboxEvents event.id startedAt).2 = true := by
    rw [← own, claim_pending (keyed_rows reachable) listed pending]
  have settled : settle s.db.outboxEvents (s.publishers lines.host) s.stored .ok =
      some ((claim s.db.outboxEvents event.id startedAt).1,
        { s.publishers lines.host with pc := .claimed event rest (.resolved true) }) := by
    simp [settle, suspended, CallResult.applied, CallResult.settle, won]
  apply (publisher_settles .ok (Or.inl rfl) settled).trans
  rintro claimed steps ⟨moved, _⟩
  have suspended' : (claimed.publishers lines.host).pc = .claimed event rest (.resolved true) := by
    rw [moved]
  exact event_served (reachable_after reachable steps) (open_.after steps) suspended'

/-- A cycle of an idle publisher over a table in which an event is PENDING. -/
theorem cycle_serves (reachable : (system stock).Reachable anyStep s)
    (open_ : lines.Open s) (idle : (s.publishers lines.host).pc = .idle) {row : OutboxEvent}
    (listed : row ∈ s.db.outboxEvents) (pending : row.status = .pending) :
    (system stock).CanReach (Serving lines) (fun s' => ∃ e ∈ s.unsent, SentRow s' e) s := by
  have guarded : (s.publishers lines.host).activeExecutions = 0 := by
    have := guard_invariant reachable lines.host
    rwa [Publisher.Guarded, if_pos idle] at this
  -- the tick is not skipped
  have started : s.act (.publishPending lines.host) =
      some { s with publishers := Function.update s.publishers lines.host ⟨1, .finding⟩ } := by
    simp [State.act, State.publishPending, OutboxPublisherService.publishPending, guarded]
  apply act_then (a := .publishPending lines.host) ⟨rfl, trivial⟩ started
  intro finding begun first
  have suspended : (finding.publishers lines.host).pc = .finding := by simp [begun]
  have sameRows : finding.db.outboxEvents = s.db.outboxEvents := by simp [begun]
  obtain ⟨events, found⟩ := findPending_reachable reachable
  have settled : settle finding.db.outboxEvents (finding.publishers lines.host) finding.stored .ok =
      some (s.db.outboxEvents,
        { finding.publishers lines.host with pc := .found (.resolved events) }) := by
    simp [settle, suspended, sameRows, found, CallResult.settle]
  apply (publisher_settles .ok (Or.inl rfl) settled).trans
  rintro fetched second ⟨moved, rows, _⟩
  have steps := first.trans second
  -- the oldest PENDING row heads the batch
  obtain ⟨head, tail, batched⟩ : ∃ head tail, batch s.db.outboxEvents = head :: tail := by
    have waits := mem_pendingRows.mpr ⟨listed, pending⟩
    unfold batch
    cases fetched : pendingRows s.db.outboxEvents with
    | nil => exact absurd (fetched ▸ waits) List.not_mem_nil
    | cons head tail => exact ⟨head, tail.take (batchSize - 1), rfl⟩
  obtain ⟨headListed, headPending⟩ := mem_batch (batched ▸ List.mem_cons_self : head ∈ batch _)
  have checked := findPending_batch.mp found
  rw [batched] at checked
  cases checked with
  | @cons _ event _ rest passes _ =>
    have own : head.id = event.id := (toPending_ok passes).1.symm
    have resumed : resume (fetched.publishers lines.host) fetched.now false fetched.copies.length =
        some ⟨none, { fetched.publishers lines.host with
          pc := .claiming event rest fetched.now }⟩ := by
      simp [resume, moved, next]
    apply (publisher_resumes (open_.after steps) resumed).trans
    rintro claiming third ⟨moved', rows', _⟩
    have present : head ∈ claiming.db.outboxEvents := by rw [rows', rows]; exact headListed
    apply (event_claimed (reachable_after reachable (steps.trans third))
      (open_.after (steps.trans third)) (by rw [moved']) present headPending own).mono
    intro later _ sent
    refine ⟨event.id, (mem_unsent (keyed_rows reachable)).mpr ⟨head, ?_, ?_⟩, sent⟩
    · rw [← own]
      exact rowOf_mem (keyed_rows reachable) headListed
    · simp [headPending]

/-- 30 s later the recovery takes back every row that is PROCESSING, whoever claimed it. -/
theorem backlog_recovered (reachable : (system stock).Reachable anyStep s) :
    (system stock).CanReach (Serving lines) (fun s' => s'.publishers = s.publishers ∧
      ∀ row ∈ s'.db.outboxEvents, row.status ≠ .processing) s := by
  have waits : s.act (.tick 30001) = some { s with now := s.now + 30001 } := rfl
  apply act_then (a := .tick 30001) ⟨trivial, trivial⟩ waits
  intro later ticked _
  have now : later.now = s.now + 30001 := by rw [ticked]
  have sameRows : later.db.outboxEvents = s.db.outboxEvents := by rw [ticked]
  have samePublishers : later.publishers = s.publishers := by rw [ticked]
  apply reaches_act (a := .recoverStuckProcessing later.now) ⟨rfl, trivial⟩ (if_pos le_rfl)
  refine ⟨samePublishers, fun row member processing => ?_⟩
  obtain ⟨old, listed, rfl⟩ := mem_updateMany.mp member
  split at processing
  · cases processing
  next kept =>
    rw [sameRows] at listed
    -- it was claimed by now, so its time is up
    have row := (table_invariant (outbox_reachable reachable).2).2 old.id
    have found : s.outbox.row old.id = some old := rowOf_mem (keyed_rows reachable) listed
    obtain ⟨startedAt, started⟩ :=
      Option.ne_none_iff_exists'.mp ((row.processing old found).mp processing)
    have past : startedAt ≤ s.now := row.past old startedAt found started
    have elapsed : startedAt + 30000 < later.now :=
      now ▸ Nat.lt_succ_of_le (Nat.add_le_add_right past 30000)
    exact kept (stuck_iff.mpr ⟨processing, startedAt, started, elapsed⟩)

/-- The cycle in progress, the recovery and one more cycle leave fewer events unsent. -/
theorem backlog_shrinks (reachable : (system stock).Reachable anyStep s)
    (open_ : lines.Open s) (left : s.unsent.Nonempty) :
    (system stock).CanReach (Serving lines) (fun s' => s'.unsent.card < s.unsent.card) s := by
  apply (cycle_ends reachable open_).trans
  intro ended first idle
  apply (backlog_recovered (reachable_after reachable first)).trans
  rintro recovered second ⟨samePublishers, settled⟩
  have steps := first.trans second
  have reachable' := reachable_after reachable steps
  have fewer : recovered.unsent.card ≤ s.unsent.card :=
    Finset.card_le_card (unsent_after reachable steps)
  rcases recovered.unsent.eq_empty_or_nonempty with none_ | ⟨e, waits⟩
  · apply System.CanReach.here
    rw [none_]
    exact Finset.card_pos.mpr left
  · obtain ⟨row, found, unsent⟩ := (mem_unsent (keyed_rows reachable')).mp waits
    obtain ⟨listed, _⟩ := rowOf_some found
    have pending : row.status = .pending := by
      have other := settled row listed
      cases status : row.status with
      | pending => rfl
      | processing => exact absurd status other
      | sent => exact absurd status unsent
    apply (cycle_serves reachable' (open_.after steps)
      (by rw [samePublishers]; exact idle) listed pending).mono
    rintro later further ⟨e, before, sent⟩
    refine lt_of_lt_of_le (Finset.card_lt_card ⟨unsent_after reachable' further, ?_⟩) fewer
    intro all
    obtain ⟨row, found, unsent⟩ :=
      (mem_unsent (keyed_rows (reachable_after reachable' further))).mp (all before)
    obtain ⟨row', found', sent'⟩ := sent
    cases found.symm.trans found'
    exact unsent sent'

theorem backlog_drained (reachable : (system stock).Reachable anyStep s)
    (open_ : lines.Open s) :
    (system stock).CanReach (Serving lines) (fun s' => s'.unsent = ∅) s := by
  apply System.CanReach.measure fun s' => s'.unsent.card
  intro s' steps
  rcases s'.unsent.eq_empty_or_nonempty with none_ | left
  · exact .here (Or.inl none_)
  · apply (backlog_shrinks (reachable_after reachable steps) (open_.after steps) left).mono
    exact fun later _ fewer => Or.inr fewer

end Served

end FlashSaleLab
