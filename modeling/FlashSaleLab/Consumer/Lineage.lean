import FlashSaleLab.Broker.Copies

/-!
# Message lineages

The copies that executions published for one message form a tree. Each hop outside the DLQ adds
one to exactly one of two counters, and both stop at 3, so a lineage is at most six hops deep
before the DLQ.
-/
namespace FlashSaleLab

open OrderNotificationConsumer Transition

/-- `id` is `n` hops below the publication `root`. -/
inductive Path (copies : Copies) (root : CopyId) : Nat → CopyId → Prop
  | root (copy : Copy) (found : copies[root]? = some copy) (fresh : copy.source = none) :
      Path copies root 0 root
  | hop (n : Nat) (parent id : CopyId) (mover : HandlerId) (copy : Copy)
      (before : Path copies root n parent) (found : copies[id]? = some copy)
      (source : copy.source = some (mover, parent)) : Path copies root (n + 1) id

/-- The two counters, a missing header read as 0. -/
def Message.Counts (message : Message) (retries processingRetries : Nat) : Prop :=
  message.headers.count "retry-count" = .ok (.real retries) ∧
    message.headers.count "processing-retry-count" = .ok (.real processingRetries)

theorem message_counts (orderId : Rat) (requestId : String) :
    (RabbitMqService.message orderId requestId).Counts 0 0 :=
  ⟨Headers.count_empty _, Headers.count_empty _⟩

namespace OrderNotificationConsumer.Republishes

variable {message message' : Message} {pc : HandlerPc} {queue : Queue}

theorem count_retry {headers : Headers} {value : HeaderValue} :
    (headers.set "retry-count" value).count "processing-retry-count" =
      headers.count "processing-retry-count" :=
  Headers.count_set_of_ne _ _ (by decide)

theorem count_processing {headers : Headers} {value : HeaderValue} :
    (headers.set "processing-retry-count" value).count "retry-count" =
      headers.count "retry-count" :=
  Headers.count_set_of_ne _ _ (by decide)

theorem count_reason {headers : Headers} {value : HeaderValue} :
    (headers.set "dlq-reason" value).count "retry-count" = headers.count "retry-count" ∧
    (headers.set "dlq-reason" value).count "processing-retry-count" =
      headers.count "processing-retry-count" :=
  ⟨Headers.count_set_of_ne _ _ (by decide), Headers.count_set_of_ne _ _ (by decide)⟩

/-- A copy for the DLQ keeps both counters; any other one adds 1 to one of them, within 3. -/
theorem counts {retries processingRetries : Nat} (before : message.Counts retries processingRetries)
    (site : Republishes message pc queue message') :
    (queue = .dlq ∧ message'.Counts retries processingRetries) ∨
    (queue ≠ .dlq ∧ ∃ retries' processingRetries', message'.Counts retries' processingRetries' ∧
      retries' + processingRetries' = retries + processingRetries + 1 ∧
      (retries ≤ 3 → retries' ≤ 3) ∧ (processingRetries ≤ 3 → processingRetries' ≤ 3)) := by
  obtain ⟨retry, processing⟩ := before
  -- the three sites for the DLQ, then the three others, each below its own limit
  cases site with
  | redisExhausted pc failed retryCount count limit
  | processingExhausted retryCount count limit =>
    left
    refine ⟨rfl, ?_, ?_⟩
    · rw [Headers.count_set_self, ← count, retry]
    · rw [count_retry, processing]
  | lockExhausted processingRetryCount count limit =>
    left
    refine ⟨rfl, ?_, ?_⟩
    · rw [count_reason.1, count_processing, retry]
    · rw [count_reason.2, Headers.count_set_self, ← count, processing]
  | redisRetry pc failed retryCount count below =>
    right
    cases count.symm.trans retry
    rw [JsNumber.atLeast_natCast, decide_eq_false_iff_not] at below
    refine ⟨by decide, retries + 1, processingRetries, ⟨?_, ?_⟩, by omega, by omega, by omega⟩
    · rw [Headers.count_set_self, JsNumber.increment_natCast]
    · rw [count_retry, processing]
  | processingRetry retryCount count below =>
    right
    -- the shared header is at most 1 here, whichever branch counted
    cases count.symm.trans retry
    rw [JsNumber.atLeast_natCast, decide_eq_false_iff_not] at below
    refine ⟨by decide, retries + 1, processingRetries, ⟨?_, ?_⟩, by omega, by omega, by omega⟩
    · rw [Headers.count_set_self, JsNumber.increment_natCast]
    · rw [count_retry, processing]
  | lockRetry processingRetryCount count below =>
    right
    cases count.symm.trans processing
    rw [JsNumber.atLeast_natCast, decide_eq_false_iff_not, maxProcessingRetries] at below
    refine ⟨by decide, retries, processingRetries + 1, ⟨?_, ?_⟩, by omega, by omega, by omega⟩
    · rw [count_processing, retry]
    · rw [Headers.count_set_self, JsNumber.increment_natCast]

end OrderNotificationConsumer.Republishes

/-- What a copy outside the DLQ carries `n` hops below its root. -/
def Bounded (rootCopy : Copy) (n : Nat) (copy : Copy) : Prop :=
  copy.message.content = rootCopy.message.content ∧
    (copy.queue ≠ .dlq → ∃ retries processingRetries,
      copy.message.Counts retries processingRetries ∧ retries ≤ 3 ∧ processingRetries ≤ 3 ∧
        retries + processingRetries = n)

theorem path_bounded {s : State} (copies : CopiesInv s) {root id : CopyId} {n : Nat}
    (path : Path s.copies root n id) :
    ∃ rootCopy copy, s.copies[root]? = some rootCopy ∧ rootCopy.source = none ∧
      s.copies[id]? = some copy ∧ Bounded rootCopy n copy := by
  -- along the path: the parent's counters are known, and it is not in the DLQ
  induction path with
  | root copy found fresh =>
    refine ⟨copy, copy, found, fresh, found, rfl, fun _ => ⟨0, 0, ?_, by omega, by omega, rfl⟩⟩
    cases (copies root copy found).2 with
    | published orderId requestId source queue message =>
      rw [message]
      exact message_counts orderId requestId
    | republished mover parent before pc source =>
      rw [fresh] at source
      cases source
  | hop n parent id mover copy before found source ih =>
    obtain ⟨rootCopy, parentCopy, foundRoot, fresh, foundParent, content, counts⟩ := ih
    refine ⟨rootCopy, copy, foundRoot, fresh, found, ?_⟩
    cases (copies id copy found).2 with
    | published orderId requestId fromNowhere =>
      rw [source] at fromNowhere
      cases fromNowhere
    | republished mover' parent' first pc source' foundFirst older alive site =>
      rw [source] at source'
      cases source'
      cases foundParent.symm.trans foundFirst
      refine ⟨site.content.trans content, fun outside => ?_⟩
      obtain ⟨retries, processingRetries, held, few, fewProcessing, sum⟩ := counts alive
      rcases site.counts held with
        ⟨dlq, _⟩ | ⟨_, retries', processingRetries', now, added, within, withinToo⟩
      · exact absurd dlq outside
      · exact ⟨retries', processingRetries', now, within few, withinToo fewProcessing, by omega⟩

/-- A root is a message `publishOrderNotification` sent, without headers. -/
theorem root_headers {s : State} (copies : CopiesInv s) {root : CopyId} {copy : Copy}
    (found : s.copies[root]? = some copy) (fresh : copy.source = none) :
    copy.message.headers = .empty := by
  cases (copies root copy found).2 with
  | published orderId requestId source queue message =>
    rw [message]
    rfl
  | republished mover parent before pc source =>
    rw [fresh] at source
    cases source

/-- A copy of a lineage that is for the DLQ has a parent that is not, and its counters. -/
theorem dlq_keeps_counters {s : State} (copies : CopiesInv s) {root id : CopyId} {n : Nat}
    (path : Path s.copies root n id) {copy : Copy} (found : s.copies[id]? = some copy)
    (dlq : copy.queue = .dlq) :
    ∃ mover parent before, copy.source = some (mover, parent) ∧
      s.copies[parent]? = some before ∧ before.queue ≠ .dlq ∧
      copy.message.headers.count "retry-count" = before.message.headers.count "retry-count" ∧
      copy.message.headers.count "processing-retry-count" =
        before.message.headers.count "processing-retry-count" := by
  cases (copies id copy found).2 with
  | published orderId requestId source queue =>
    rw [dlq] at queue
    cases queue
  | republished mover parent before pc source foundParent older alive site =>
    refine ⟨mover, parent, before, source, foundParent, alive, ?_⟩
    -- the parent is a copy of the same lineage, so its counters are known
    cases path with
    | root other present none =>
      cases found.symm.trans present
      cases none.symm.trans source
    | hop n parent' _ mover' other above present source' =>
      cases found.symm.trans present
      cases source'.symm.trans source
      obtain ⟨_, parentCopy, _, _, foundAgain, _, parentCounts⟩ := path_bounded copies above
      cases foundParent.symm.trans foundAgain
      obtain ⟨retries, processingRetries, held, _⟩ := parentCounts alive
      rcases site.counts held with ⟨_, kept⟩ | ⟨outside, _⟩
      · exact ⟨kept.1.trans held.1.symm, kept.2.trans held.2.symm⟩
      · exact absurd dlq outside

/-- An execution is never given a copy from the DLQ, so none publishes anything for it. -/
theorem dlq_childless {s : State} (copies : CopiesInv s) {id child : CopyId} {copy other : Copy}
    (found : s.copies[id]? = some copy) (dlq : copy.queue = .dlq)
    (present : s.copies[child]? = some other) (mover : HandlerId) :
    other.source ≠ some (mover, id) := by
  intro source
  cases (copies child other present).2 with
  | published orderId requestId fromNowhere =>
    rw [source] at fromNowhere
    cases fromNowhere
  | republished mover' parent before pc source' foundParent older alive =>
    rw [source] at source'
    cases source'
    cases found.symm.trans foundParent
    exact alive dlq

/-- **Bounded retries.** `n` hops below a publication every copy has the publication's bytes.
Outside the DLQ its counters are at most 3 each and add up to `n`, so `n ≤ 6`. A copy in the
DLQ has the counters of its parent, and no execution publishes anything for it. -/
theorem lineage_bounded (stock : Int → Option Nat) (s : State)
    (reachable : (system stock).Reachable anyStep s) (root id : CopyId) (n : Nat)
    (path : Path s.copies root n id) (copy : Copy) (found : s.copies[id]? = some copy) :
    (∃ rootCopy, s.copies[root]? = some rootCopy ∧ rootCopy.message.headers = .empty ∧
      copy.message.content = rootCopy.message.content) ∧
    (copy.queue ≠ .dlq → n ≤ 6 ∧ ∃ retries processingRetries,
      copy.message.Counts retries processingRetries ∧ retries ≤ 3 ∧ processingRetries ≤ 3 ∧
        retries + processingRetries = n) ∧
    (copy.queue = .dlq → (∃ mover parent before, copy.source = some (mover, parent) ∧
        s.copies[parent]? = some before ∧ before.queue ≠ .dlq ∧
        copy.message.headers.count "retry-count" = before.message.headers.count "retry-count" ∧
        copy.message.headers.count "processing-retry-count" =
          before.message.headers.count "processing-retry-count") ∧
      ∀ (child : CopyId) (other : Copy) (mover : HandlerId), s.copies[child]? = some other →
        other.source ≠ some (mover, id)) := by
  have copies := (copies_invariant reachable).1
  obtain ⟨rootCopy, copy', foundRoot, fresh, found', content, counts⟩ := path_bounded copies path
  cases found.symm.trans found'
  refine ⟨⟨rootCopy, foundRoot, root_headers copies foundRoot fresh, content⟩, ?_, ?_⟩
  · intro outside
    obtain ⟨retries, processingRetries, held, few, fewProcessing, sum⟩ := counts outside
    exact ⟨by omega, retries, processingRetries, held, few, fewProcessing, sum⟩
  · intro dlq
    exact ⟨dlq_keeps_counters copies path found dlq,
      fun child other mover present => dlq_childless copies found dlq present mover⟩

/-- Handler 0's processed check fails, so it publishes copy 1 to the retry queue. -/
def retried : State :=
  .after anyStep (fun _ => some 1)
    (publishedOrder ++
      [.deliver 0 0, .handlerSettles 0 (.failed false), .handlerResumes 0 false])

theorem retried_bounded : ∃ copy, retried.copies[1]? = some copy ∧ copy.queue = .retry ∧
    ∃ retries processingRetries, copy.message.Counts retries processingRetries ∧
      retries + processingRetries = 1 := by
  have reachable : (system _).Reachable anyStep retried := State.after_reachable ..
  have first : (retried.copies[0]?).map (·.source) = some none := by decide +kernel
  have second : (retried.copies[1]?).map (fun copy => (copy.source, copy.queue)) =
      some (some (0, 0), .retry) := by decide +kernel
  obtain ⟨root, foundRoot, fresh⟩ := Option.map_eq_some_iff.mp first
  obtain ⟨copy, found, both⟩ := Option.map_eq_some_iff.mp second
  obtain ⟨source, queue⟩ := Prod.mk.inj both
  have path : Path retried.copies 0 1 1 :=
    .hop 0 0 1 0 copy (.root root foundRoot fresh) found source
  obtain ⟨_, retries, processingRetries, counts, _, _, sum⟩ :=
    (lineage_bounded _ retried reachable 0 1 1 path copy found).2.1 (by rw [queue]; decide)
  exact ⟨copy, found, queue, retries, processingRetries, counts, sum⟩

end FlashSaleLab
