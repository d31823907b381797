import FlashSaleLab.Consumer.Lineage
import FlashSaleLab.Consumer.Refusals

/-!
# A lineage that ends on the lock

Each hop through the processing-retry queue takes 35 s and a lease ends after 30 s, so the four
refusals on the way to the DLQ come from four leases taken one after the other. A holder that
had stored the processed key would have stopped the lineage at its next check.
-/
namespace FlashSaleLab

open OrderNotificationConsumer Transition

namespace OrderNotificationConsumer.Republishes

variable {message message' : Message} {pc : HandlerPc} {queue : Queue}

/-- Only the lock branch writes the reason, and only at its limit. -/
theorem reason (site : Republishes message pc queue message') :
    (queue = .dlq ∧ pc = .locked (.resolved false) ∧ ∃ processingRetryCount,
      message.headers.count "processing-retry-count" = .ok processingRetryCount ∧
        processingRetryCount.atLeast maxProcessingRetries = true) ∨
    message'.headers "dlq-reason" = message.headers "dlq-reason" := by
  cases site with
  | lockExhausted processingRetryCount count limit =>
    exact Or.inl ⟨rfl, rfl, processingRetryCount, count, limit⟩
  | redisExhausted | redisRetry | lockRetry | processingExhausted | processingRetry =>
    exact Or.inr (by simp [Headers.set_of_ne])

/-- A hop outside the DLQ counts a refusal exactly when there was one. -/
theorem counts_refusal (site : Republishes message pc queue message') (outside : queue ≠ .dlq) :
    message'.headers.count "processing-retry-count" =
        message.headers.count "processing-retry-count" ∨
      (pc = .locked (.resolved false) ∧ queue = .processingRetry ∧ ∃ processingRetryCount,
        message.headers.count "processing-retry-count" = .ok processingRetryCount ∧
        message'.headers.count "processing-retry-count" = .ok processingRetryCount.increment) := by
  cases site with
  | redisExhausted | lockExhausted | processingExhausted => exact absurd rfl outside
  | redisRetry | processingRetry => exact Or.inl count_retry
  | lockRetry processingRetryCount count below =>
    exact Or.inr ⟨rfl, rfl, processingRetryCount, count, Headers.count_set_self _ _ _⟩

end OrderNotificationConsumer.Republishes

/-- The refusals on the path to a copy that can be delivered from `available` on, newest first. -/
structure Trail (stock : Int → Option Nat) (s : State) (root : CopyId) (orderId : Option Json)
    (available : Time) (refusals : List Refusal) : Prop where
  refused : ∀ r ∈ refusals, Refused stock s orderId r
  lineage : ∀ r ∈ refusals, ∃ n, Path s.copies root n r.copy
  spaced : refusals.Pairwise fun later earlier => earlier.triedAt + 35000 ≤ later.triedAt
  waited : ∀ r ∈ refusals, r.triedAt + 35000 ≤ available

section Trails

variable {stock : Int → Option Nat} {s : State} {root : CopyId} {orderId : Option Json}
  {available later : Time} {refusals : List Refusal} {r : Refusal}

theorem Trail.mono (trail : Trail stock s root orderId available refusals)
    (le : available ≤ later) : Trail stock s root orderId later refusals :=
  ⟨trail.refused, trail.lineage, trail.spaced, fun r member => (trail.waited r member).trans le⟩

/-- A refusal on a delivery that came when the copy was available. -/
theorem Trail.refuse (trail : Trail stock s root orderId available refusals)
    (refused : Refused stock s orderId r) (lineage : ∃ n, Path s.copies root n r.copy)
    (delivered : available ≤ r.deliveredAt) (waited : r.triedAt + 35000 ≤ later) :
    Trail stock s root orderId later (r :: refusals) := by
  have tried : available ≤ r.triedAt :=
    delivered.trans (refused.delivered.trans refused.before)
  constructor
  · simpa using ⟨refused, trail.refused⟩
  · simpa using ⟨lineage, trail.lineage⟩
  · exact List.pairwise_cons.mpr ⟨fun earlier member => (trail.waited earlier member).trans tried,
      trail.spaced⟩
  · intro other member
    rcases List.mem_cons.mp member with rfl | old
    · exact waited
    · have before := (trail.waited other old).trans tried
      exact before.trans ((Nat.le_add_right _ _).trans waited)

/-- The leases that refused the attempts were taken one after the other. -/
theorem Trail.leases (trail : Trail stock s root orderId available refusals) :
    refusals.Pairwise fun later earlier => earlier.lockedAt < later.lockedAt :=
  LeaseLock.spaced (by decide : 30000 ≤ 35000)
    (fun r member => ⟨(trail.refused r member).taken, (trail.refused r member).inForce⟩)
    trail.spaced

/-- The counter of a copy is the number of refusals on its path. -/
theorem path_trail (reachable : (system stock).Reachable anyStep s) {id : CopyId} {n : Nat}
    (path : Path s.copies root n id) : ∃ copy orderId, s.copies[id]? = some copy ∧
      start copy.message.content = .ok orderId ∧
      (copy.queue ≠ .dlq → copy.message.headers "dlq-reason" = none ∧ ∃ refusals,
        copy.message.headers.count "processing-retry-count" =
          .ok (.real (refusals.length : Nat)) ∧
        Trail stock s root orderId (copy.publishedAt + copy.queue.delay) refusals) := by
  -- a hop through the lock branch adds its refusal to the trail, any other one only takes time
  induction path with
  | root copy found fresh =>
    cases ((copies_invariant reachable).1 root copy found).2 with
    | published orderId requestId source queue message =>
      refine ⟨copy, some (.number orderId), found, by rw [message]; rfl, fun _ => ?_⟩
      rw [message]
      exact ⟨rfl, [], Headers.count_empty _, by simp, by simp, .nil, by simp⟩
    | republished mover parent before pc source =>
      rw [fresh] at source
      cases source
  | hop n parent id mover copy above found source ih =>
    obtain ⟨before, orderId, held, names, known⟩ := ih
    obtain ⟨handler, given, pc, rfl, hop⟩ :=
      hops_invariant reachable id copy mover parent found source
    cases held.symm.trans hop.held
    have order : handler.orderId = orderId := by simpa using hop.names.symm.trans names
    refine ⟨copy, orderId, found, by rw [hop.site.content]; exact names, fun outside => ?_⟩
    obtain ⟨unset, refusals, count, trail⟩ := known hop.alive
    constructor
    · rcases hop.site.reason with ⟨dlq, _⟩ | same
      · exact absurd dlq outside
      · exact same.trans unset
    have available : before.publishedAt + before.queue.delay ≤
        copy.publishedAt + copy.queue.delay :=
      hop.delivered.trans (hop.published.trans (Nat.le_add_right _ _))
    rcases hop.site.counts_refusal outside with
      same | ⟨attempt, queue, processingRetryCount, read, counted⟩
    · exact ⟨refusals, same.trans count, trail.mono available⟩
    · obtain ⟨r, refused, own, tried⟩ := hop.refused attempt
      obtain ⟨sameCopy, deliveredAt⟩ := refused.of_handler own hop.found
      refine ⟨r :: refusals, ?_, trail.refuse (order ▸ refused) ⟨n, sameCopy ▸ above⟩ ?_ ?_⟩
      · cases read.symm.trans count
        rw [counted, JsNumber.increment_natCast, List.length_cons]
      · rw [deliveredAt]
        exact hop.delivered
      · rw [queue]
        exact Nat.add_le_add_right tried 35000

/-- A counter at its limit is 3: no counter goes beyond. -/
theorem refusals_at_limit (copies : CopiesInv s) {id : CopyId} {n k : Nat}
    (path : Path s.copies root n id) {copy : Copy} (found : s.copies[id]? = some copy)
    (alive : copy.queue ≠ .dlq)
    (count : copy.message.headers.count "processing-retry-count" = .ok (.real (k : Nat)))
    (limit : (JsNumber.real (k : Nat)).atLeast maxProcessingRetries = true) : k = 3 := by
  obtain ⟨_, _, _, _, foundToo, _, counts⟩ := path_bounded copies path
  cases found.symm.trans foundToo
  obtain ⟨_, processingRetries, ⟨_, processing⟩, _, few, _⟩ := counts alive
  have equal := JsNumber.natCast_inj.mp (Except.ok.inj (count.symm.trans processing))
  rw [JsNumber.atLeast_natCast, decide_eq_true_eq, maxProcessingRetries] at limit
  omega

end Trails

/-- Execution `handler` was started for a copy of the lineage. -/
def LineageDelivery (s : State) (root : CopyId) (handler : Handler) : Prop :=
  handler ∈ s.handlers ∧ ∃ n, Path s.copies root n handler.copy

/-- The first delivery of the lineage came at `time`. -/
def FirstDelivery (s : State) (root : CopyId) (time : Time) : Prop :=
  (∃ handler, LineageDelivery s root handler ∧ handler.deliveredAt = time) ∧
    ∀ handler, LineageDelivery s root handler → time ≤ handler.deliveredAt

/-- Four refusals, newest first, the newest one of execution `mover`. Their leases are those of
four executions, none of them refused itself, which took the lock one after the other. None of
them had stored the processed key in the state `mover` checked. -/
structure FourHolders (stock : Int → Option Nat) (s : State) (orderId : Option Json)
    (mover : HandlerId) (refusals : List Refusal) : Prop where
  four : refusals.length = 4
  distinct : (refusals.map (·.holder)).Nodup
  ordered : refusals.Pairwise fun later earlier => earlier.lockedAt < later.lockedAt
  locked : ∀ r ∈ refusals,
    .lockStored orderId r.holder r.lockedAt ∈ s.history ∧ r.lockedAt ≤ s.now
  others : ∀ r ∈ refusals, ∀ other ∈ refusals, r.holder ≠ other.handler
  unmarked : ∃ last, refusals.head? = some last ∧ last.handler = mover ∧
    CheckedIn stock last.seen s orderId mover ∧
    ∀ r ∈ refusals, ∀ time, .processedStored orderId r.holder time ∉ last.seen.history

section Holders

variable {stock : Int → Option Nat} {s s' : State} {a : Action} {root : CopyId}
  {orderId : Option Json} {available first : Time} {refusals : List Refusal} {r last : Refusal}

theorem Trail.distinct (trail : Trail stock s root orderId available refusals)
    (attempts : AttemptsInv s) : (refusals.map (·.holder)).Nodup := by
  refine List.pairwise_map.mpr
    (trail.leases.imp_of_mem fun {later earlier} new old order same => ?_)
  have one := attempts.locked _ _ _ (trail.refused later new).locked
  have other := attempts.locked _ _ _ (trail.refused earlier old).locked
  rw [same] at one
  -- one execution tries the lock once
  exact absurd (other.unique one) (Nat.ne_of_lt order)

/-- Whoever refused an attempt of the lineage had not stored the processed key by any check of
the lineage. -/
theorem Trail.unmarked (trail : Trail stock s root orderId available refusals)
    (attempts : AttemptsInv s) (delivered : FirstDelivery s root first)
    (early : s.now < first + 86400000) (member : r ∈ refusals) (checks : last ∈ refusals)
    {time : Time} (noted : .processedStored orderId r.holder time ∈ last.seen.history) : False := by
  have refused := trail.refused r member
  have checked := (trail.refused last checks).checked
  have stored := checked.remembers noted
  have expired : time + 86400000 ≤ last.seen.now :=
    (redis_invariant checked.reachable).unmarked checked.absent noted
  -- the holder took its lock before it stored the key
  obtain ⟨since, le, attempted⟩ := attempts.marked _ _ _ stored
  have lockedAt : since = r.lockedAt := attempted.unique (attempts.locked _ _ _ refused.locked)
  rcases refused.checked.marked stored with old | new
  · -- marked long before the refused check, while its own lease still refused the attempt
    have inForce := refused.inForce
    have before := refused.before
    unfold Time at *
    omega
  · -- marked after the first delivery: the mark is live at every check within 24 h
    obtain ⟨handler, found, copy, deliveredAt, _⟩ := refused.execution
    obtain ⟨n, path⟩ := trail.lineage r member
    have begun : first ≤ handler.deliveredAt :=
      delivered.2 handler ⟨List.mem_of_getElem? found, n, copy ▸ path⟩
    have past := checked.past
    have checkedAfter := refused.delivered
    unfold Time at *
    omega

/-- A copy that was there before the step has its whole path from before. -/
theorem Path.before {n : Nat} {id : CopyId} (path : Path s'.copies root n id)
    (copies : CopiesInv s') (taken : s.step a = some s') (old : id < s.copies.length) :
    Path s.copies root n id := by
  -- parents are older than their children, so the whole path is old
  induction path with
  | root copy found fresh =>
    obtain ⟨_, stays⟩ := copies_stay taken (List.getElem?_eq_getElem old)
    cases found.symm.trans stays
    exact .root _ (List.getElem?_eq_getElem old) fresh
  | hop n parent id mover copy above found source ih =>
    cases (copies id copy found).2 with
    | published orderId requestId fromNowhere =>
      rw [source] at fromNowhere
      cases fromNowhere
    | republished mover' parent' given pc source' foundParent older =>
      rw [source] at source'
      cases source'
      obtain ⟨_, stays⟩ := copies_stay taken (List.getElem?_eq_getElem old)
      cases found.symm.trans stays
      exact .hop n parent id mover _ (ih (older.trans old)) (List.getElem?_eq_getElem old) source

theorem Trail.others (trail : Trail stock s root orderId available refusals) (member : r ∈ refusals)
    {other : Refusal} (refusedToo : other ∈ refusals) : r.holder ≠ other.handler := by
  intro same
  have locked := (trail.refused r member).locked
  rw [same] at locked
  exact (trail.refused other refusedToo).lockless _ _ locked

/-- Three refusals on the path and the one that ends it. -/
theorem Trail.fourHolders (reachable : (system stock).Reachable anyStep s)
    (trail : Trail stock s root orderId available (last :: refusals))
    (three : refusals.length = 3) (delivered : FirstDelivery s root first)
    (early : s.now < first + 86400000) :
    FourHolders stock s orderId last.handler (last :: refusals) := by
  have attempts := attempts_invariant reachable
  have newest : last ∈ last :: refusals := List.mem_cons_self
  constructor
  · rw [List.length_cons, three]
  · exact trail.distinct attempts
  · exact trail.leases
  · intro r member
    have refused := trail.refused r member
    exact ⟨refused.locked, refused.taken.trans refused.tried⟩
  · intro r member other refusedToo
    exact trail.others member refusedToo
  · refine ⟨last, rfl, rfl, (trail.refused last newest).checked, ?_⟩
    intro r member time noted
    exact trail.unmarked attempts delivered early member newest noted

end Holders

/-- **Four holders.** When a step puts a copy of a lineage on its way to the DLQ with the reason
`processing-lock-exhausted`, less than 24 h after the lineage's first delivery, four executions
other than the refused ones had taken the order's lock one after the other, and none of them had
stored the processed key when the publishing execution checked it. -/
theorem exhaustion_needs_four_holders (stock : Int → Option Nat) (s s' : State) (a : Action)
    (reachable : (system stock).Reachable anyStep s) (taken : s.step a = some s')
    (root id : CopyId) (n : Nat) (path : Path s'.copies root n id) (fresh : s.copies[id]? = none)
    (copy : Copy) (found : s'.copies[id]? = some copy) (dlq : copy.queue = .dlq)
    (reason : copy.message.headers "dlq-reason" = some (.other "processing-lock-exhausted" .nan))
    (first : Time) (delivered : FirstDelivery s root first) (early : s.now < first + 86400000) :
    ∃ orderId mover parent refusals, start copy.message.content = .ok orderId ∧
      copy.source = some (mover, parent) ∧ FourHolders stock s orderId mover refusals := by
  have later : (system stock).Reachable anyStep s' := .step reachable trivial taken
  cases copyStep taken found with
  | moved before old =>
    cases fresh.symm.trans old
  | published host event rest channel new suspended made =>
    rw [made] at dlq
    cases dlq
  | republished mover handler parent queue message new present held site made waits =>
    subst made
    cases path with
    | root other same none =>
      cases found.symm.trans same
      cases none
    | hop m given _ mover' other above same source =>
      cases found.symm.trans same
      cases source
      have before := above.before (copies_invariant later).1 taken (Registry.lt_of_found held)
      obtain ⟨_, orderId, heldToo, names, known⟩ := path_trail reachable before
      cases held.symm.trans heldToo
      obtain ⟨_, heldAgain, ready, reads⟩ :=
        ((copies_invariant reachable).2 mover handler present).given
      cases held.symm.trans heldAgain
      have order : handler.orderId = orderId := by
        simpa using (reads site.not_rejected).symm.trans names
      obtain ⟨unset, refusals, count, trail⟩ := known ready.1
      rcases site.reason with ⟨_, attempt, processingRetryCount, read, limit⟩ | same
      · obtain ⟨r, refused, own⟩ :=
          (trials_invariant reachable mover handler present).refused attempt
        obtain ⟨sameCopy, deliveredAt⟩ := refused.of_handler own present
        have full : Trail stock s root orderId (s.now + 35000) (r :: refusals) :=
          trail.refuse (order ▸ refused) ⟨m, sameCopy ▸ before⟩ (deliveredAt ▸ ready.2)
            (Nat.add_le_add_right refused.tried 35000)
        cases read.symm.trans count
        have three : refusals.length = 3 :=
          refusals_at_limit (copies_invariant reachable).1 before held ready.1 count limit
        refine ⟨orderId, mover, handler.copy, r :: refusals, ?_, rfl, ?_⟩
        · rw [site.content]
          exact names
        · rw [← own]
          exact full.fourHolders reachable three delivered early
      · cases unset.symm.trans (same.symm.trans reason)

/-- An execution takes the lock of the order and loses its channel; the copy it was given goes to
another execution, which is refused. -/
def refusedRound (copy : CopyId) (channel : ChannelId) : List Action :=
  [.openChannel 1, .deliver copy channel, .handlerSettles (2 * copy) .ok,
    .handlerResumes (2 * copy) false, .handlerSettles (2 * copy) .ok, .loseChannel channel,
    .deliver copy 0, .handlerSettles (2 * copy + 1) .ok, .handlerResumes (2 * copy + 1) false,
    .handlerSettles (2 * copy + 1) .ok]

/-- The refused execution publishes, and the copy waits for 35 s. -/
def retriedRound (copy : CopyId) : List Action :=
  [.handlerResumes (2 * copy + 1) false, .store (copy + 1), .tick 35000, .deadLetter (copy + 1)]

def exhausted : State :=
  .after anyStep (fun _ => some 1)
    (publishedOrder ++ refusedRound 0 2 ++ retriedRound 0 ++ refusedRound 1 3 ++ retriedRound 1 ++
      refusedRound 2 4 ++ retriedRound 2 ++ refusedRound 3 5)

/-- What the path to copy 4 is read off from. -/
def Copy.hopTo (copy : Copy) : Queue × Option (HandlerId × CopyId) × Option HeaderValue :=
  (copy.queue, copy.source, copy.message.headers "dlq-reason")

theorem exhausted_four_holders : ∃ s', exhausted.step (.handlerResumes 7 false) = some s' ∧
    ∃ orderId mover refusals,
      FourHolders (fun _ => some 1) exhausted orderId mover refusals := by
  have reachable : (system _).Reachable anyStep exhausted := State.after_reachable ..
  have hops : (exhausted.step (.handlerResumes 7 false)).map (·.copies.map (·.hopTo)) = some
      [(.notification, none, none), (.processingRetry, some (1, 0), none),
        (.processingRetry, some (3, 1), none), (.processingRetry, some (5, 2), none),
        (.dlq, some (7, 3), some (.other "processing-lock-exhausted" .nan))] := by decide +kernel
  obtain ⟨s', taken, listed⟩ := Option.map_eq_some_iff.mp hops
  have copyAt (i : Nat) {hop} (at_ : (s'.copies.map (·.hopTo))[i]? = some hop) :
      ∃ copy, s'.copies[i]? = some copy ∧ copy.hopTo = hop := Registry.of_map at_
  obtain ⟨root, found0, hop0⟩ := copyAt 0 (by rw [listed]; rfl)
  obtain ⟨copy1, found1, hop1⟩ := copyAt 1 (by rw [listed]; rfl)
  obtain ⟨copy2, found2, hop2⟩ := copyAt 2 (by rw [listed]; rfl)
  obtain ⟨copy3, found3, hop3⟩ := copyAt 3 (by rw [listed]; rfl)
  obtain ⟨copy4, found4, hop4⟩ := copyAt 4 (by rw [listed]; rfl)
  simp only [Copy.hopTo, Prod.mk.injEq] at hop0 hop1 hop2 hop3 hop4
  have path : Path s'.copies 0 4 4 :=
    .hop 3 3 4 7 copy4 (.hop 2 2 3 5 copy3 (.hop 1 1 2 3 copy2 (.hop 0 0 1 1 copy1
      (.root root found0 hop0.2.1) found1 hop1.2.1) found2 hop2.2.1) found3 hop3.2.1)
      found4 hop4.2.1
  have delivered : FirstDelivery exhausted 0 0 := by
    have first : (exhausted.handlers[0]?).map (fun handler => (handler.copy, handler.deliveredAt)) =
        some (0, 0) := by decide +kernel
    have fresh : (exhausted.copies[0]?).map (·.source) = some none := by decide +kernel
    obtain ⟨handler, started, both⟩ := Option.map_eq_some_iff.mp first
    obtain ⟨given, present, source⟩ := Option.map_eq_some_iff.mp fresh
    obtain ⟨own, time⟩ := Prod.mk.inj both
    refine ⟨⟨handler, ⟨List.mem_of_getElem? started, 0, ?_⟩, time⟩, fun _ _ => Nat.zero_le _⟩
    rw [own]
    exact .root given present source
  have fresh : exhausted.copies[4]? = none := by
    rw [List.getElem?_eq_none_iff]
    decide +kernel
  have early : exhausted.now < 0 + 86400000 := by decide +kernel
  obtain ⟨orderId, mover, _, refusals, _, _, holders⟩ :=
    exhaustion_needs_four_holders _ exhausted s' _ reachable taken 0 4 4 path fresh copy4 found4
      hop4.1 hop4.2.2 0 delivered early
  exact ⟨s', taken, orderId, mover, refusals, holders⟩

end FlashSaleLab
