import FlashSaleLab.Consumer.Lock

/-!
# Redis against the history

Each entry under a lock's or a processed key was noted down when it was written, and a
processed key that was written is there until its TTL ends: nothing deletes it.
-/
namespace FlashSaleLab

open OrderNotificationConsumer Transition

/-- What the entries tell of the history, and the history of the entries. -/
structure RedisInv (s : State) : Prop where
  locks : ∀ orderId entry, s.redis (processingKey orderId) = some entry →
    ∃ time ≤ s.now, .lockStored orderId entry.value.writer time ∈ s.history ∧
      entry.expiresAt = time + 30000
  marks : ∀ orderId entry, s.redis (processedKey orderId) = some entry →
    entry.value.text = "true" ∧
      ∃ time, .processedStored orderId entry.value.writer time ∈ s.history ∧
        entry.expiresAt = time + 86400000
  kept : ∀ orderId id time, .processedStored orderId id time ∈ s.history → time ≤ s.now ∧
    ∃ entry, s.redis (processedKey orderId) = some entry ∧ time + 86400000 ≤ entry.expiresAt

theorem processedKey_injective {first second : Option Json}
    (same : processedKey first = processedKey second) : first = second := by
  simpa [processedKey] using same

section Steps

variable {s s' : State} {a : Action}

/-- A step that writes neither kind of key, and notes down no `processedStored`. -/
theorem RedisInv.untouched (inv : RedisInv s) (later : s.now ≤ s'.now) (events : List Event)
    (history : s'.history = events ++ s.history)
    (locks : ∀ orderId entry, s'.redis (processingKey orderId) = some entry →
      s.redis (processingKey orderId) = some entry)
    (marks : ∀ orderId, s'.redis (processedKey orderId) = s.redis (processedKey orderId))
    (quiet : ∀ orderId id time, .processedStored orderId id time ∉ events) : RedisInv s' where
  locks orderId entry present := by
    obtain ⟨time, past, noted, ends⟩ := inv.locks orderId entry (locks orderId entry present)
    refine ⟨time, past.trans later, ?_, ends⟩
    rw [history]
    exact List.mem_append_right _ noted
  marks orderId entry present := by
    obtain ⟨text, time, noted, ends⟩ := inv.marks orderId entry (marks orderId ▸ present)
    refine ⟨text, time, ?_, ends⟩
    rw [history]
    exact List.mem_append_right _ noted
  kept orderId id time noted := by
    rw [history] at noted
    rcases List.mem_append.mp noted with new | old
    · exact absurd new (quiet orderId id time)
    · obtain ⟨past, entry, present, ends⟩ := inv.kept orderId id time old
      exact ⟨past.trans later, entry, marks orderId ▸ present, ends⟩

/-- A lock was stored: its entry is noted down now, and the processed keys are other keys. -/
theorem RedisInv.lockStored (inv : RedisInv s) {orderId : Option Json} {id : HandlerId}
    (now : s'.now = s.now)
    (redis : s'.redis =
      ExpiringStore.set s.redis s.now (processingKey orderId) ⟨"true", id⟩ 30000)
    (history : s'.history = .lockStored orderId id s.now :: s.history) : RedisInv s' where
  locks order entry present := by
    rw [redis] at present
    by_cases same : order = orderId
    · subst same
      simp only [ExpiringStore.set_self, Option.some.injEq] at present
      subst present
      refine ⟨s.now, now.ge, ?_, rfl⟩
      rw [history]
      exact List.mem_cons_self
    · have otherKey : processingKey order ≠ processingKey orderId :=
        fun equal => same (processingKey_injective equal)
      rw [ExpiringStore.set_of_ne _ _ _ _ _ otherKey] at present
      obtain ⟨time, past, noted, ends⟩ := inv.locks order entry present
      exact ⟨time, now ▸ past, by rw [history]; exact List.mem_cons_of_mem _ noted, ends⟩
  marks order entry present := by
    rw [redis, ExpiringStore.set_of_ne _ _ _ _ _
      (processingKey_ne_processedKey _ _).symm] at present
    obtain ⟨text, time, noted, ends⟩ := inv.marks order entry present
    exact ⟨text, time, by rw [history]; exact List.mem_cons_of_mem _ noted, ends⟩
  kept order writer time noted := by
    rw [history] at noted
    have old : .processedStored order writer time ∈ s.history := by simpa using noted
    obtain ⟨past, entry, present, ends⟩ := inv.kept order writer time old
    refine ⟨now ▸ past, entry, ?_, ends⟩
    rw [redis, ExpiringStore.set_of_ne _ _ _ _ _ (processingKey_ne_processedKey _ _).symm]
    exact present

/-- A processed key was stored: its new entry outlives whatever was written there before. -/
theorem RedisInv.markStored (inv : RedisInv s) {orderId : Option Json} {id : HandlerId}
    (now : s'.now = s.now)
    (redis : s'.redis =
      ExpiringStore.set s.redis s.now (processedKey orderId) ⟨"true", id⟩ 86400000)
    (history : s'.history = .processedStored orderId id s.now :: s.history) : RedisInv s' where
  locks order entry present := by
    rw [redis, ExpiringStore.set_of_ne _ _ _ _ _ (processingKey_ne_processedKey _ _)] at present
    obtain ⟨time, past, noted, ends⟩ := inv.locks order entry present
    exact ⟨time, now ▸ past, by rw [history]; exact List.mem_cons_of_mem _ noted, ends⟩
  marks order entry present := by
    rw [redis] at present
    by_cases same : order = orderId
    · subst same
      simp only [ExpiringStore.set_self, Option.some.injEq] at present
      subst present
      exact ⟨rfl, s.now, by rw [history]; exact List.mem_cons_self, rfl⟩
    · have otherKey : processedKey order ≠ processedKey orderId :=
        fun equal => same (processedKey_injective equal)
      rw [ExpiringStore.set_of_ne _ _ _ _ _ otherKey] at present
      obtain ⟨text, time, noted, ends⟩ := inv.marks order entry present
      exact ⟨text, time, by rw [history]; exact List.mem_cons_of_mem _ noted, ends⟩
  kept order writer time noted := by
    rw [history] at noted
    by_cases same : order = orderId
    · subst same
      have past : time ≤ s.now := by
        rcases List.mem_cons.mp noted with new | old
        · cases new
          exact Nat.le_refl _
        · exact (inv.kept _ writer time old).1
      refine ⟨now ▸ past, ⟨⟨"true", id⟩, s.now + 86400000⟩, ?_, Nat.add_le_add_right past _⟩
      rw [redis, ExpiringStore.set_self]
    · have old : .processedStored order writer time ∈ s.history := by
        rcases List.mem_cons.mp noted with new | old
        · cases new
          exact absurd rfl same
        · exact old
      have otherKey : processedKey order ≠ processedKey orderId :=
        fun equal => same (processedKey_injective equal)
      obtain ⟨past, entry, present, ends⟩ := inv.kept order writer time old
      refine ⟨now ▸ past, entry, ?_, ends⟩
      rw [redis, ExpiringStore.set_of_ne _ _ _ _ _ otherKey]
      exact present

/-- A `del` only takes a lock's entry away. -/
theorem RedisInv.lockDeleted (inv : RedisInv s) {orderId : Option Json} (now : s'.now = s.now)
    (redis : s'.redis = ExpiringStore.del s.redis (processingKey orderId))
    (history : s'.history = s.history) : RedisInv s' := by
  refine inv.untouched now.ge [] history (fun order entry present => ?_) (fun order => ?_) (by simp)
  · rw [redis] at present
    by_cases same : order = orderId
    · subst same
      rw [ExpiringStore.del_self] at present
      cases present
    · have otherKey : processingKey order ≠ processingKey orderId :=
        fun equal => same (processingKey_injective equal)
      rwa [ExpiringStore.del_of_ne _ _ otherKey] at present
  · rw [redis, ExpiringStore.del_of_ne _ _ (processingKey_ne_processedKey _ _).symm]

theorem RedisInv.settled (inv : RedisInv s) {id : HandlerId} {handler after : Handler}
    {result : CallResult} {events : List Event}
    (moved : Settles s.redis s.now id handler s.stored result s'.redis after events)
    (now : s'.now = s.now) (history : s'.history = events ++ s.history) : RedisInv s' := by
  generalize post : s'.redis = redis at moved
  cases moved with
  | lockTaken => exact inv.lockStored now post history
  | markStored => exact inv.markStored now post history
  | deleted => exact inv.lockDeleted now post history
  | _ =>
    exact inv.untouched now.ge _ history (fun orderId entry present => by rwa [post] at present)
      (fun orderId => by rw [post]) (by simp)

theorem RedisInv.step (inv : RedisInv s) (later : s.now ≤ s'.now) (taken : ConsumerStep s a s') :
    RedisInv s' := by
  have same (redis : s'.redis = s.redis) (events : List Event)
      (history : s'.history = events ++ s.history)
      (quiet : ∀ orderId id time, .processedStored orderId id time ∉ events) : RedisInv s' :=
    inv.untouched later events history (fun orderId entry present => redis ▸ present)
      (fun orderId => by rw [redis]) quiet
  cases taken with
  | idle handlers redis events foreign history =>
    refine same redis events history fun orderId id time member => ?_
    exact foreign _ member rfl
  | delivered handler copy since held waiting start deliveredAt unchecked untried now handlers
      redis history => exact same redis [] history (by simp)
  | settled id handler result after events action found moved now handlers history =>
    exact inv.settled moved now history
  | resumed id handler sendThrows copy segment action found held moved copies now handlers redis
      history =>
    exact same redis [] history (by simp)
  | crashed host action now handlers redis history => exact same redis [] history (by simp)

end Steps

theorem redis_initial (stock : Int → Option Nat) : RedisInv (.initial stock) := by
  constructor
  · intro orderId entry present
    cases present
  · intro orderId entry present
    cases present
  · intro orderId id time noted
    cases noted

theorem redis_invariant {stock : Int → Option Nat} {allowed : State → Action → Prop} {s : State}
    (reachable : (system stock).Reachable allowed s) : RedisInv s := by
  apply reachable.invariant (I := RedisInv)
  · rintro s rfl
    exact redis_initial stock
  · intro s a s' _ inv _ taken
    exact inv.step (State.clock_step taken) (consumerStep taken)

/-- A read of the processed key that finds nothing comes a whole TTL after any earlier write. -/
theorem RedisInv.unmarked {s : State} (inv : RedisInv s) {orderId : Option Json}
    (absent : s.redis.live s.now (processedKey orderId) = none) {id : HandlerId} {time : Time}
    (noted : .processedStored orderId id time ∈ s.history) : time + 86400000 ≤ s.now := by
  obtain ⟨_, entry, present, ends⟩ := inv.kept orderId id time noted
  exact ends.trans (ExpiringStore.live_eq_none_iff.mp absent entry present)

end FlashSaleLab
