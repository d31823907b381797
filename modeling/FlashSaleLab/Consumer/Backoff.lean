import FlashSaleLab.Consumer.LockExhaustion

/-!
# How long retries take

Each retry after a failed Redis call waits 5 s in its queue, each one after a refused lock 35 s, and
only the first retry after a failed notification does not wait. So the counters of a copy tell how
old its lineage is at least when it is delivered, and nothing gets into the DLQ before a budget is
used up.
-/
namespace FlashSaleLab

open OrderNotificationConsumer Transition

/-- How long at least a message has been retried that carries these counters. -/
def backoff (retries processingRetries : Nat) : Time :=
  5000 * (retries - 1) + 35000 * processingRetries

/-- A copy whose retries took the time the queues hold them back: `delayed` of those that
`retry-count` counts have waited, `early` have not. -/
def Spaced (since : Time) (copy : Copy) : Prop :=
  ∃ delayed early processingRetries : Nat,
    copy.message.Counts (delayed + early) processingRetries ∧ early ≤ 1 ∧
      (copy.queue = .dlq → 3 ≤ processingRetries ∨ 1 ≤ delayed + early) ∧
      since + (5000 * delayed + 35000 * processingRetries) ≤ copy.publishedAt + copy.queue.delay

namespace OrderNotificationConsumer.Republishes

variable {message message' : Message} {pc : HandlerPc} {queue : Queue}
  {delayed early processingRetries : Nat}

/-- A message goes to the DLQ when one of the counters has reached its limit. -/
theorem exhausts {retries : Nat} (before : message.Counts retries processingRetries)
    (site : Republishes message pc queue message') (dlq : queue = .dlq) :
    3 ≤ processingRetries ∨ 1 ≤ retries := by
  obtain ⟨retry, processing⟩ := before
  cases site with
  | redisRetry | lockRetry | processingRetry => cases dlq
  | redisExhausted _ failed retryCount count limit
  | processingExhausted retryCount count limit =>
    right
    cases count.symm.trans retry
    rw [JsNumber.atLeast_natCast, decide_eq_true_eq] at limit
    omega
  | lockExhausted processingRetryCount count limit =>
    left
    cases count.symm.trans processing
    rw [JsNumber.atLeast_natCast, decide_eq_true_eq, maxProcessingRetries] at limit
    exact limit

/-- What a retry adds to the counters it waits for in its queue, unless it is the first one after
a failed notification. -/
theorem spaced (before : message.Counts (delayed + early) processingRetries) (few : early ≤ 1)
    (site : Republishes message pc queue message') :
    ∃ delayed' early' processingRetries' : Nat,
      message'.Counts (delayed' + early') processingRetries' ∧ early' ≤ 1 ∧
      (queue = .dlq → 3 ≤ processingRetries' ∨ 1 ≤ delayed' + early') ∧
      5000 * delayed' + 35000 * processingRetries' ≤
        5000 * delayed + 35000 * processingRetries + queue.delay := by
  have spent := site.exhausts before
  obtain ⟨retry, processing⟩ := before
  cases site with
  | redisExhausted pc failed retryCount count limit
  | processingExhausted retryCount count limit =>
    refine ⟨delayed, early, processingRetries, ⟨?_, ?_⟩, few, spent, Nat.le_add_right _ _⟩
    · rw [Headers.count_set_self, ← count, retry]
    · rw [count_retry, processing]
  | lockExhausted processingRetryCount count limit =>
    refine ⟨delayed, early, processingRetries, ⟨?_, ?_⟩, few, spent, Nat.le_add_right _ _⟩
    · rw [count_reason.1, count_processing, retry]
    · rw [count_reason.2, Headers.count_set_self, ← count, processing]
  | redisRetry pc failed retryCount count below =>
    cases count.symm.trans retry
    refine ⟨delayed + 1, early, processingRetries, ⟨?_, ?_⟩, few, nofun, ?_⟩
    · rw [Headers.count_set_self, JsNumber.increment_natCast, Nat.add_right_comm]
    · rw [count_retry, processing]
    · exact Nat.le_of_eq (Nat.add_right_comm (5000 * delayed) 5000 _)
  | lockRetry processingRetryCount count below =>
    cases count.symm.trans processing
    refine ⟨delayed, early, processingRetries + 1, ⟨?_, ?_⟩, few, nofun, ?_⟩
    · rw [count_processing, retry]
    · rw [Headers.count_set_self, JsNumber.increment_natCast]
    · exact Nat.le_of_eq (Nat.add_assoc _ (35000 * processingRetries) 35000).symm
  | processingRetry retryCount count below =>
    -- this site republishes only while the counter is 0
    cases count.symm.trans retry
    rw [JsNumber.atLeast_natCast, decide_eq_false_iff_not] at below
    obtain rfl : delayed = 0 := by omega
    obtain rfl : early = 0 := by omega
    refine ⟨0, 1, processingRetries, ⟨?_, ?_⟩, Nat.le_refl 1, nofun, Nat.le_add_right _ _⟩
    · rw [Headers.count_set_self, JsNumber.increment_natCast]
    · rw [count_retry, processing]

end OrderNotificationConsumer.Republishes

section Paths

variable {stock : Int → Option Nat} {s : State} {root id : CopyId} {n : Nat}

/-- Along the path each copy comes after the delay of the one before it. -/
theorem path_spaced (copies : CopiesInv s) (hops : HopsInv stock s)
    (path : Path s.copies root n id) :
    ∃ rootCopy copy, s.copies[root]? = some rootCopy ∧ s.copies[id]? = some copy ∧
      Spaced rootCopy.publishedAt copy := by
  induction path with
  | root copy found fresh =>
    refine ⟨copy, copy, found, found, ?_⟩
    cases (copies root copy found).2 with
    | published orderId requestId source queue message =>
      refine ⟨0, 0, 0, ?_, Nat.zero_le 1, ?_, Nat.le_add_right _ _⟩
      · rw [message]
        exact message_counts orderId requestId
      · intro dlq
        cases queue.symm.trans dlq
    | republished mover parent before pc source =>
      rw [fresh] at source
      cases source
  | hop n parent id mover copy before found source ih =>
    obtain ⟨rootCopy, parentCopy, foundRoot, foundParent, delayed, early, processingRetries,
      counts, few, _, spaced⟩ := ih
    obtain ⟨handler, parentCopy', pc, rfl, hop⟩ := hops id copy mover parent found source
    cases foundParent.symm.trans hop.held
    obtain ⟨delayed', early', processingRetries', counts', few', spent, added⟩ :=
      hop.site.spaced counts few
    refine ⟨rootCopy, copy, foundRoot, found, delayed', early', processingRetries', counts', few',
      spent, ?_⟩
    calc rootCopy.publishedAt + (5000 * delayed' + 35000 * processingRetries')
        ≤ rootCopy.publishedAt + (5000 * delayed + 35000 * processingRetries + copy.queue.delay) :=
          Nat.add_le_add_left added _
      _ = rootCopy.publishedAt + (5000 * delayed + 35000 * processingRetries) +
          copy.queue.delay := (Nat.add_assoc _ _ _).symm
      _ ≤ parentCopy.publishedAt + parentCopy.queue.delay + copy.queue.delay :=
          Nat.add_le_add_right spaced _
      _ ≤ copy.publishedAt + copy.queue.delay :=
          Nat.add_le_add_right (hop.delivered.trans hop.published) _

end Paths

/-- **Retries back off.** Whatever copy of a publication is delivered: at least 5 s have passed
since the publication for each retry it counts but the first, and 35 s for each refused lock. No
copy is in the DLQ with neither a retry nor three refusals counted. -/
theorem retries_back_off (stock : Int → Option Nat) (s : State)
    (reachable : (system stock).Reachable anyStep s) (root id : CopyId) (n : Nat)
    (path : Path s.copies root n id) (rootCopy copy : Copy)
    (foundRoot : s.copies[root]? = some rootCopy) (found : s.copies[id]? = some copy) :
    ∃ retries processingRetries, copy.message.Counts retries processingRetries ∧
      (∀ (mover : HandlerId) (handler : Handler), s.handlers[mover]? = some handler →
        handler.copy = id →
        rootCopy.publishedAt + backoff retries processingRetries ≤ handler.deliveredAt) ∧
      (copy.queue = .dlq →
        rootCopy.publishedAt + backoff retries processingRetries ≤ copy.publishedAt ∧
        (3 ≤ processingRetries ∨ 1 ≤ retries)) := by
  obtain ⟨copies, handlers⟩ := copies_invariant reachable
  obtain ⟨rootCopy', copy', foundRoot', found', delayed, early, processingRetries, counts, few,
    spent, spaced⟩ := path_spaced copies (hops_invariant reachable) path
  cases foundRoot.symm.trans foundRoot'
  cases found.symm.trans found'
  have waited : backoff (delayed + early) processingRetries ≤
      5000 * delayed + 35000 * processingRetries := by
    have : delayed + early - 1 ≤ delayed := by omega
    exact Nat.add_le_add_right (Nat.mul_le_mul_left 5000 this) _
  have aged : rootCopy.publishedAt + backoff (delayed + early) processingRetries ≤
      copy.publishedAt + copy.queue.delay :=
    (Nat.add_le_add_left waited _).trans spaced
  refine ⟨delayed + early, processingRetries, counts, ?_, ?_⟩
  · intro mover handler present own
    obtain ⟨given, held, ready, _⟩ := (handlers mover handler present).given
    rw [own] at held
    cases found.symm.trans held
    exact aged.trans ready.2
  · intro dlq
    rw [dlq] at aged
    exact ⟨aged, spent dlq⟩

/-- Copy 0 is refused the lock, and its copy in the processing-retry queue is delivered. -/
def backedOff : State :=
  .after anyStep (fun _ => some 1)
    (publishedOrder ++ refusedRound 0 2 ++ retriedRound 0 ++ [.deliver 1 0])

theorem backedOff_waits : ∃ copy retries processingRetries, backedOff.copies[1]? = some copy ∧
    copy.message.Counts retries processingRetries ∧
    ∀ (mover : HandlerId) (handler : Handler), backedOff.handlers[mover]? = some handler →
      handler.copy = 1 → backoff retries processingRetries ≤ handler.deliveredAt := by
  have reachable : (system _).Reachable anyStep backedOff := State.after_reachable ..
  have first : (backedOff.copies[0]?).map (fun copy => (copy.source, copy.publishedAt)) =
      some (none, 0) := by decide +kernel
  have second : (backedOff.copies[1]?).map (·.source) = some (some (1, 0)) := by decide +kernel
  obtain ⟨root, foundRoot, both⟩ := Option.map_eq_some_iff.mp first
  obtain ⟨copy, found, source⟩ := Option.map_eq_some_iff.mp second
  obtain ⟨fresh, since⟩ := Prod.mk.inj both
  have path : Path backedOff.copies 0 1 1 :=
    .hop 0 0 1 1 copy (.root root foundRoot fresh) found source
  obtain ⟨retries, processingRetries, counts, waited, _⟩ :=
    retries_back_off _ backedOff reachable 0 1 1 path root copy foundRoot found
  refine ⟨copy, retries, processingRetries, found, counts, ?_⟩
  intro mover handler present own
  have aged := waited mover handler present own
  rw [since, Nat.zero_add] at aged
  exact aged

end FlashSaleLab
