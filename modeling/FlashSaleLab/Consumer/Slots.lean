import FlashSaleLab.Consumer.SharedChannel

/-!
# Deliveries that are never settled

The consume callback only logs an exception that leaves `handleMessage`. A delivery whose
execution ends so is neither acked nor nacked and keeps its prefetch slot. With every call
succeeding this happens exactly to bodies without a usable `orderId` and to counters on which
`Number(...)` throws.
-/
namespace FlashSaleLab

namespace OrderNotificationConsumer

/-- Every Redis and broker call succeeds. -/
structure Outcomes.Succeeds (outcomes : Outcomes) : Prop where
  delivers : outcomes.Delivers
  checks : ∃ reply, outcomes.check = .resolved reply
  locks : ∃ acquired, outcomes.lock = .resolved acquired

/-- The task the consume callback started has finished. -/
def Task.finished (task : Task) : Prop := task.pc = .returned ∨ task.pc = .rejected

instance (task : Task) : Decidable task.finished :=
  inferInstanceAs (Decidable (task.pc = .returned ∨ task.pc = .rejected))

namespace SharedChannel

/-- Every Redis and broker call of the step succeeds. -/
def succeeds (_ : SharedChannel) : ChannelAction → Prop
  | .answered _ outcomes =>
    (∃ reply, outcomes.check = .resolved reply) ∧ ∃ acquired, outcomes.lock = .resolved acquired
  | .resumes _ sendThrows => sendThrows = false
  | .verdict _ verdict => verdict = .confirmed
  | _ => True

/-- The delivered body has a usable `orderId`, and a counter is read only where it converts. -/
def processable (s : SharedChannel) : ChannelAction → Prop
  | .deliver message => Keyed message.content
  | .resumes id _ => ∀ task, s.tasks[id]? = some task → ∀ key, counterRead task.pc = some key →
      ∃ n, task.message.headers.count key = .ok n
  | _ => True

/-- No execution was left by an exception or gave its delivery back. -/
structure Smooth (s : SharedChannel) : Prop where
  unnacked : ∀ id, s.publishes.verdict id ≠ some .nacked
  tasks : ∀ (id : Nat) (task : Task), s.tasks[id]? = some task →
    task.pc ≠ .rejected ∧ task.settlement ≠ some .nackRequeue

variable {s s' : SharedChannel} {a : ChannelAction}

/-- What a segment makes of a task in such a run. -/
theorem Smooth.segment {id : Nat} {task : Task} {segment : Segment} (smooth : Smooth s)
    (staged : Staged s) (found : s.tasks[id]? = some task)
    (processed : ∀ key, counterRead task.pc = some key → ∃ n,
      task.message.headers.count key = .ok n)
    (taken : resume task.message s.publishes.length ⟨false, false, false⟩ task.pc =
      some segment) :
    segment.pc ≠ .rejected ∧ segment.settled ≠ some .nackRequeue := by
  cases staged id task found with
  | before early =>
    cases openSegment early taken with
    | advances next still =>
      refine ⟨?_, by simp⟩
      rintro rfl
      cases still
    | acks | publishes => simp
    | sendThrew threw => cases threw
    -- the counters of the run convert
    | counterThrew key text read throws =>
      obtain ⟨n, converts⟩ := processed key read
      cases throws.symm.trans converts
  | resolved own here =>
    rw [here] at taken
    cases taken
    simp [afterConfirm]
  | rejected own here owns rejects =>
    obtain ⟨publish, _, nacked⟩ := rejects
    exact absurd nacked (smooth.unnacked publish)
  | waiting own copy here | acked own here | nacked own here | unpublished settlement here
  | escaped here =>
    rw [here] at taken
    cases taken

theorem Smooth.step (smooth : Smooth s) (staged : Staged s) (success : succeeds s a)
    (processed : processable s a) (acts : Acts s a s') : Smooth s' := by
  cases acts with
  | delivered message free =>
    refine ⟨smooth.unnacked, fun id task found => ?_⟩
    rcases Registry.of_added found with old | ⟨_, rfl⟩
    · exact smooth.tasks id task old
    · simp [firstAwait_keyed processed]
  | answered mover outcomes before pc present elsewhere awaited =>
    refine ⟨smooth.unnacked, fun id task found => ?_⟩
    rcases Registry.of_set found with ⟨rfl, rfl⟩ | ⟨_, old⟩
    · refine ⟨?_, (smooth.tasks id before present).2⟩
      rintro rfl
      cases (settle_early elsewhere awaited).2
    · exact smooth.tasks id task old
  | resolved mover before copy present | rejected mover before copy present =>
    refine ⟨smooth.unnacked, fun id task found => ?_⟩
    rcases Registry.of_set found with ⟨rfl, rfl⟩ | ⟨_, old⟩
    · exact ⟨by simp, (smooth.tasks id before present).2⟩
    · exact smooth.tasks id task old
  | published mover sendThrows before segment copy present taken sent =>
    cases success
    refine ⟨by simpa using smooth.unnacked, fun id task found => ?_⟩
    rcases Registry.of_set found with ⟨rfl, rfl⟩ | ⟨_, old⟩
    · exact ⟨(smooth.segment staged present (processed before present) taken).1,
        (smooth.tasks id before present).2⟩
    · exact smooth.tasks id task old
  | resumed mover sendThrows before segment present taken unsent =>
    cases success
    refine ⟨smooth.unnacked, fun id task found => ?_⟩
    rcases Registry.of_set found with ⟨rfl, rfl⟩ | ⟨_, old⟩
    · obtain ⟨stays, acks⟩ := smooth.segment staged present (processed before present) taken
      refine ⟨stays, ?_⟩
      cases earlier : before.settlement with
      | none => simpa [earlier] using acks
      | some settlement =>
        have := (smooth.tasks id before present).2
        simpa [earlier] using this
    · exact smooth.tasks id task old
  | judged publish verdict publishes answered =>
    -- the broker only confirms
    cases success
    refine ⟨fun id => ?_, smooth.tasks⟩
    simp only [(ConfirmLog.verdict_answer answered).2 id]
    split
    · simp
    · exact smooth.unnacked id

theorem smooth_invariant (reachable : system.Reachable (fun s a => succeeds s a ∧ processable s a)
    s) : Smooth s := by
  refine reachable.invariant ?_ ?_
  · rintro s rfl
    exact ⟨by simp [ConfirmLog.verdict], by simp⟩
  · intro s a s' before smooth condition taken
    exact smooth.step (staged_invariant before) condition.1 condition.2 (step_acts taken)

/-- In such a run a finished execution has acked, and its copy is stored if it published one. -/
theorem Smooth.finished {id : Nat} {task : Task} (smooth : Smooth s) (staged : Staged s)
    (found : s.tasks[id]? = some task) (finished : task.finished) :
    task.settlement = some .ack ∧ (task.published ≠ none → CopyConfirmed s.publishes task) := by
  obtain ⟨stays, acks⟩ := smooth.tasks id task found
  have returned : task.pc = .returned := finished.resolve_right stays
  cases staged id task found with
  | acked own _ owns resolves settled =>
    exact ⟨settled, fun _ => ⟨own, owns.published, resolves own owns.covers⟩⟩
  | nacked _ _ _ _ settled => exact absurd settled acks
  | unpublished settlement _ unpublished settled =>
    cases settlement with
    | ack => exact ⟨settled, fun published => absurd unpublished published⟩
    | nackRequeue => exact absurd settled acks
  | before early =>
    rw [returned] at early
    cases early
  | waiting _ _ here | resolved _ here | rejected _ here | escaped here =>
    cases here.symm.trans returned

/-- An execution that an exception ended stays as it is. -/
theorem Acts.escaped {id : Nat} {task : Task} (acts : Acts s a s')
    (found : s.tasks[id]? = some task) (rejected : task.pc = .rejected) :
    s'.tasks[id]? = some task := by
  -- a rejected execution awaits nothing and has no segment
  have idle {other : Task} {mover : Nat} (present : s.tasks[mover]? = some other)
      (moves : other.pc ≠ .rejected) {new : Task} : (s.tasks.set mover new)[id]? = some task := by
    by_cases same : id = mover
    · subst same
      cases found.symm.trans present
      exact absurd rejected moves
    · rw [Registry.set_other same, found]
  cases acts with
  | delivered message free => exact Registry.added_of found
  | answered mover outcomes before pc present elsewhere awaited =>
    refine idle present fun here => ?_
    rw [here] at awaited
    cases awaited
  | resolved mover before copy present suspended | rejected mover before copy present suspended =>
    exact idle present fun here => by cases here.symm.trans suspended
  | published mover sendThrows before segment copy present taken
  | resumed mover sendThrows before segment present taken =>
    refine idle present fun here => ?_
    rw [here] at taken
    cases taken
  | judged publish verdict publishes answered => exact found

theorem escaped_stays {id : Nat} {task : Task} {later : SharedChannel}
    (steps : system.Steps anyStep s later) (found : s.tasks[id]? = some task)
    (rejected : task.pc = .rejected) : later.tasks[id]? = some task :=
  steps.stable (P := fun s => s.tasks[id]? = some task)
    (fun _ _ _ present _ taken => (step_acts taken).escaped present rejected) found

/-- Only running executions hold slots. -/
theorem Smooth.slots_le (smooth : Smooth s) (staged : Staged s) :
    s.slots ≤ s.tasks.countP fun task => decide ¬task.finished := by
  refine List.countP_mono_left fun task member holds => ?_
  obtain ⟨id, found⟩ := List.getElem?_of_mem member
  simp only [decide_eq_true_eq]
  intro finished
  have acked := (smooth.finished staged found finished).1
  simp [Task.holdsSlot, acked] at holds

/-- **Which deliveries are settled.** With every call succeeding an execution settles its delivery
if and only if the body is usable and the counter it reads, if any, converts; the settlement is
then an ack, for a reason. In a run of such deliveries every finished execution has acked, its copy
is stored if it published one, and finished executions hold no slot, so the next delivery is
taken while fewer than 100 run. An execution that an exception ended holds its slot for good. -/
theorem deliveries_settled (message : Message) (outcomes : Outcomes)
    (succeeds : outcomes.Succeeds) :
    (settlements (handleMessage message outcomes).2 ≠ [] ↔
      Keyed message.content ∧ outcomes.CounterConverts message) ∧
    (Keyed message.content ∧ outcomes.CounterConverts message →
      settlements (handleMessage message outcomes).2 = [.ack] ∧
      Justified message (handleMessage message outcomes).2) ∧
    (∀ s, system.Reachable (fun s a => SharedChannel.succeeds s a ∧ processable s a) s →
      (∀ (id : Nat) (task : Task), s.tasks[id]? = some task → task.finished →
        task.settlement = some .ack ∧
        (task.published ≠ none → CopyConfirmed s.publishes task)) ∧
      ((s.tasks.countP fun task => decide ¬task.finished) < prefetch →
        ∀ message, (s.step (.deliver message)).isSome = true)) ∧
    ∀ s, system.Reachable anyStep s → ∀ (id : Nat) (task : Task), s.tasks[id]? = some task →
      task.pc = .rejected → ∀ later, system.Steps anyStep s later →
      later.tasks[id]? = some task ∧ task.holdsSlot = true := by
  rw [← and_assoc]
  refine ⟨?_, fun s reachable => ?_, ?_⟩
  · rcases handleMessage_cases message outcomes with
      ⟨deeds, ended, keyed, converts, done, delivered⟩ | ⟨deeds, ended, unsettled, failed⟩
    · rw [ended]
      have acked := delivered succeeds.delivers
      have once : settlements deeds = [.ack] := by
        obtain ⟨settlement, same⟩ :=
          List.length_eq_one_iff.mp (done.once succeeds.delivers.settles)
        rw [same] at acked ⊢
        rw [List.mem_singleton.mp acked]
      exact ⟨by simp [once, keyed, converts], fun _ => ⟨once, done.acks acked⟩⟩
    · rw [ended]
      exact ⟨by simp [unsettled, failed], fun both => absurd both failed⟩
  · have staged := staged_invariant reachable
    have smooth := smooth_invariant reachable
    refine ⟨fun id task found finished => smooth.finished staged found finished, ?_⟩
    intro fewer message
    have free : s.slots < prefetch := Nat.lt_of_le_of_lt (smooth.slots_le staged) fewer
    simp [step, deliver, free]
  · intro s reachable id task found rejected later steps
    refine ⟨escaped_stays steps found rejected, ?_⟩
    cases staged_invariant reachable id task found with
    | escaped _ _ unsettled => simp [Task.holdsSlot, unsettled]
    | before early =>
      rw [rejected] at early
      cases early
    | waiting _ _ here | resolved _ here | rejected _ here | acked _ here | nacked _ here
    | unpublished _ here => cases here.symm.trans rejected

/-- The message of order 7 is settled, also when another execution holds the lock. -/
theorem order_settled :
    settlements (handleMessage (RabbitMqService.message 7 "a")
      { Outcomes.calm (.resolved none) with lock := .resolved false }).2 ≠ [] :=
  (deliveries_settled (RabbitMqService.message 7 "a")
    { Outcomes.calm (.resolved none) with lock := .resolved false }
    ⟨⟨fun _ => ⟨rfl, rfl⟩, fun _ => rfl, rfl⟩, ⟨none, rfl⟩, ⟨false, rfl⟩⟩).1.mpr
    ⟨rfl, fun key read => by cases read; exact ⟨_, rfl⟩⟩

/-- A body that is no JSON: the execution ends, and its delivery is never settled. -/
theorem unparsed_unsettled :
    ¬∀ (message : Message) (outcomes : Outcomes), outcomes.Succeeds →
      settlements (handleMessage message outcomes).2 ≠ [] := by
  intro claim
  refine claim ⟨.bytes [0x7b] none, .empty⟩ (.calm (.resolved none))
    ⟨⟨fun _ => ⟨rfl, rfl⟩, fun _ => rfl, rfl⟩, ⟨none, rfl⟩, ⟨true, rfl⟩⟩ rfl

end SharedChannel

end OrderNotificationConsumer

end FlashSaleLab
