import FlashSaleLab.Consumer.Settlement
import FlashSaleLab.Foundations.Confirms
import FlashSaleLab.Foundations.Registry
import FlashSaleLab.Foundations.Transition

/-!
# All executions on one confirm channel

Every delivery starts an execution of `handleMessage`, up to the prefetch limit of unsettled
deliveries. `waitForConfirms` is called on the channel they share: it covers what is outstanding
at that moment, whoever published it. The channel stays open.
-/
namespace FlashSaleLab

namespace OrderNotificationConsumer

/-- An execution with its own publish, what its `waitForConfirms` covers and how it settled its
delivery. -/
structure Task where
  message : Message
  pc : HandlerPc
  published : Option Nat
  awaited : List Nat
  settlement : Option Settlement

/-- The delivery takes one of the channel's slots until it is settled. -/
def Task.holdsSlot (task : Task) : Bool := task.settlement.isNone

structure SharedChannel where
  tasks : List Task
  publishes : ConfirmLog (Queue × Message)

inductive ChannelAction where
  | deliver (message : Message)
  /-- An awaited call other than `waitForConfirms` ends. -/
  | answered (task : Nat) (outcomes : Outcomes)
  | waitEnds (task : Nat) (resolved : Bool)
  | resumes (task : Nat) (sendThrows : Bool)
  | verdict (publish : Nat) (verdict : Verdict)

namespace SharedChannel

/-- `channel.prefetch(100)` -/
def prefetch : Nat := 100

def slots (s : SharedChannel) : Nat := s.tasks.countP Task.holdsSlot

def deliver (s : SharedChannel) (message : Message) : Option SharedChannel :=
  if s.slots < prefetch then
    some { s with tasks := s.tasks ++ [⟨message, firstAwait message.content, none, [], none⟩] }
  else none

def answered (s : SharedChannel) (id : Nat) (outcomes : Outcomes) : Option SharedChannel :=
  match s.tasks[id]? with
  | some task =>
    match task.pc, outcomes.settle task.pc with
    -- the wait is for the channel to answer
    | .confirming _, _ => none
    | _, some pc => some { s with tasks := s.tasks.set id { task with pc } }
    | _, none => none
  | none => none

def waitEnds (s : SharedChannel) (id : Nat) (resolved : Bool) : Option SharedChannel :=
  match s.tasks[id]? with
  | some task =>
    match task.pc with
    | .confirming _ =>
      if resolved then
        if s.publishes.Resolves task.awaited then
          some { s with tasks := s.tasks.set id { task with pc := .confirmed (.resolved ()) } }
        else none
      else if s.publishes.Rejects task.awaited then
        some { s with tasks := s.tasks.set id { task with pc := .confirmed .rejected } }
      else none
    | _ => none
  | none => none

def resumes (s : SharedChannel) (id : Nat) (sendThrows : Bool) : Option SharedChannel :=
  match s.tasks[id]? with
  | some task =>
    match resume task.message s.publishes.length ⟨false, false, sendThrows⟩ task.pc with
    | some segment =>
      match segment.sent with
      | some copy =>
        let publishes := s.publishes.publish copy
        -- the segment ends with `waitForConfirms()`
        some ⟨s.tasks.set id { task with
            pc := segment.pc
            published := some s.publishes.length
            awaited := publishes.outstanding }, publishes⟩
      | none =>
        some { s with
          tasks := s.tasks.set id { task with
            pc := segment.pc
            settlement := task.settlement.or segment.settled } }
    | none => none
  | none => none

def step (s : SharedChannel) : ChannelAction → Option SharedChannel
  | .deliver message => s.deliver message
  | .answered id outcomes => s.answered id outcomes
  | .waitEnds id resolved => s.waitEnds id resolved
  | .resumes id sendThrows => s.resumes id sendThrows
  | .verdict id verdict =>
    (s.publishes.answer id verdict).map fun publishes => { s with publishes }

def system : Transition.System SharedChannel ChannelAction where
  init s := s = ⟨[], []⟩
  step := step

/-- No condition on the steps of a run. -/
def anyStep (_ : SharedChannel) (_ : ChannelAction) : Prop := True

/-- Everything a step can do. -/
inductive Acts (s : SharedChannel) : ChannelAction → SharedChannel → Prop
  | delivered (message : Message) (free : s.slots < prefetch) :
      Acts s (.deliver message)
        { s with tasks := s.tasks ++ [⟨message, firstAwait message.content, none, [], none⟩] }
  | answered (id : Nat) (outcomes : Outcomes) (task : Task) (pc : HandlerPc)
      (found : s.tasks[id]? = some task) (elsewhere : ∀ copy, task.pc ≠ .confirming copy)
      (awaited : outcomes.settle task.pc = some pc) :
      Acts s (.answered id outcomes) { s with tasks := s.tasks.set id { task with pc } }
  | resolved (id : Nat) (task : Task) (copy : CopyId) (found : s.tasks[id]? = some task)
      (suspended : task.pc = .confirming copy) (resolves : s.publishes.Resolves task.awaited) :
      Acts s (.waitEnds id true)
        { s with tasks := s.tasks.set id { task with pc := .confirmed (.resolved ()) } }
  | rejected (id : Nat) (task : Task) (copy : CopyId) (found : s.tasks[id]? = some task)
      (suspended : task.pc = .confirming copy) (rejects : s.publishes.Rejects task.awaited) :
      Acts s (.waitEnds id false)
        { s with tasks := s.tasks.set id { task with pc := .confirmed .rejected } }
  | published (id : Nat) (sendThrows : Bool) (task : Task) (segment : Segment)
      (copy : Queue × Message) (found : s.tasks[id]? = some task)
      (taken : resume task.message s.publishes.length ⟨false, false, sendThrows⟩ task.pc =
        some segment)
      (sent : segment.sent = some copy) :
      Acts s (.resumes id sendThrows)
        ⟨s.tasks.set id { task with
            pc := segment.pc
            published := some s.publishes.length
            awaited := (s.publishes.publish copy).outstanding }, s.publishes.publish copy⟩
  | resumed (id : Nat) (sendThrows : Bool) (task : Task) (segment : Segment)
      (found : s.tasks[id]? = some task)
      (taken : resume task.message s.publishes.length ⟨false, false, sendThrows⟩ task.pc =
        some segment)
      (unsent : segment.sent = none) :
      Acts s (.resumes id sendThrows)
        { s with
          tasks := s.tasks.set id { task with
            pc := segment.pc
            settlement := task.settlement.or segment.settled } }
  | judged (id : Nat) (verdict : Verdict) (publishes : ConfirmLog (Queue × Message))
      (answered : s.publishes.answer id verdict = some publishes) :
      Acts s (.verdict id verdict) { s with publishes }

variable {s s' : SharedChannel} {a : ChannelAction}

theorem step_acts (taken : s.step a = some s') : Acts s a s' := by
  cases a with
  | deliver message =>
    simp only [step, deliver] at taken
    split at taken
    next free =>
      cases taken
      exact .delivered message free
    · cases taken
  | answered id outcomes =>
    simp only [step, answered] at taken
    split at taken
    next task found =>
      split at taken
      · cases taken
      next pc awaited elsewhere =>
        cases taken
        exact .answered id outcomes task pc found elsewhere awaited
      · cases taken
    · cases taken
  | waitEnds id resolved =>
    simp only [step, waitEnds] at taken
    split at taken
    next task found =>
      split at taken
      next copy suspended =>
        cases resolved with
        | true =>
          simp only [if_true] at taken
          split at taken
          next resolves =>
            cases taken
            exact .resolved id task copy found suspended resolves
          · cases taken
        | false =>
          simp only [Bool.false_eq_true, if_false] at taken
          split at taken
          next rejects =>
            cases taken
            exact .rejected id task copy found suspended rejects
          · cases taken
      · cases taken
    · cases taken
  | resumes id sendThrows =>
    simp only [step, resumes] at taken
    split at taken
    next task found =>
      split at taken
      next segment resumed =>
        split at taken
        next copy sent =>
          cases taken
          exact .published id sendThrows task segment copy found resumed sent
        next unsent =>
          cases taken
          exact .resumed id sendThrows task segment found resumed unsent
      · cases taken
    · cases taken
  | verdict id verdict =>
    obtain ⟨publishes, answered, rfl⟩ := Option.map_eq_some_iff.mp taken
    exact .judged id verdict publishes answered

end SharedChannel

/-- The awaits before a publish site. -/
def beforePublish : HandlerPc → Bool
  | .confirming _ | .confirmed _ | .returned | .rejected | .crashed => false
  | _ => true

/-- The header converted to a number after a settled await, while every ack takes effect. -/
def counterRead : HandlerPc → Option String
  | .checked .rejected | .locked .rejected | .cleanedUp => some "retry-count"
  | .locked (.resolved false) => some "processing-retry-count"
  | _ => none

/-- The segments before the wait for confirms, on an open channel. -/
inductive OpenSegment (message : Message) (fresh : CopyId) (sendThrows : Bool) (pc : HandlerPc) :
    Segment → Prop
  | advances (next : HandlerPc) (early : beforePublish next = true) :
      OpenSegment message fresh sendThrows pc ⟨none, none, next⟩
  | acks : OpenSegment message fresh sendThrows pc ⟨none, some .ack, .returned⟩
  | publishes (queue : Queue) (copy : Message) (content : copy.content = message.content) :
      OpenSegment message fresh sendThrows pc ⟨some (queue, copy), none, .confirming fresh⟩
  | sendThrew (threw : sendThrows = true) :
      OpenSegment message fresh sendThrows pc ⟨none, some .nackRequeue, .returned⟩
  | counterThrew (key text : String) (read : counterRead pc = some key)
      (throws : message.headers.count key = .error text) :
      OpenSegment message fresh sendThrows pc ⟨none, none, .rejected⟩

section Segments

variable {message : Message} {fresh : CopyId} {sendThrows : Bool} {pc : HandlerPc}
  {segment : Segment} {key : String}

theorem Site.openSegment (read : counterRead pc = some key)
    (site : Site message key fresh ⟨false, false, sendThrows⟩ segment) :
    OpenSegment message fresh sendThrows pc segment := by
  rcases site with ⟨text, throws, rfl⟩ | ⟨n, queue, copy, converts, rfl, content⟩
  · exact .counterThrew key text read throws
  · cases sendThrows with
    | true => exact .sendThrew rfl
    | false => exact .publishes queue copy content

theorem openSegment (early : beforePublish pc = true)
    (resumed : resume message fresh ⟨false, false, sendThrows⟩ pc = some segment) :
    OpenSegment message fresh sendThrows pc segment := by
  cases pc with
  | checked reply =>
    cases reply with
    | rejected =>
      cases resumed
      exact (redisFailed_site message fresh _).openSegment rfl
    | resolved reply =>
      cases reply with
      | none =>
        cases resumed
        exact .advances _ rfl
      | some text =>
        simp only [resume, Bool.false_eq_true, if_false] at resumed
        split at resumed
        · cases resumed
          exact .advances _ rfl
        · cases resumed
          exact .acks
  | locked reply =>
    cases reply with
    | rejected =>
      cases resumed
      exact (redisFailed_site message fresh _).openSegment rfl
    | resolved acquired =>
      cases acquired with
      | true =>
        cases resumed
        exact .advances _ rfl
      | false =>
        cases resumed
        exact (lockNotAcquired_site message fresh _).openSegment rfl
  | notified reply =>
    cases reply with
    | resolved | rejected =>
      cases resumed
      exact .advances _ rfl
  | marked =>
    cases resumed
    exact .advances _ rfl
  | released =>
    cases resumed
    exact .acks
  | cleanedUp =>
    cases resumed
    exact (processingFailed_site message fresh _).openSegment rfl
  | confirming | confirmed | returned | rejected | crashed => cases early
  | _ => cases resumed

theorem settle_early {outcomes : Outcomes} {settled : HandlerPc}
    (elsewhere : ∀ copy, pc ≠ .confirming copy) (awaited : outcomes.settle pc = some settled) :
    beforePublish pc = true ∧ beforePublish settled = true := by
  cases pc with
  | confirming copy => exact absurd rfl (elsewhere copy)
  | checking | locking | notifying | marking | releasing | cleaningUp =>
    cases awaited
    exact ⟨rfl, rfl⟩
  | _ => cases awaited

end Segments

/-- The task's own publish is a copy of its message, and its wait covers it. -/
structure Owns (log : ConfirmLog (Queue × Message)) (task : Task) (own : Nat) : Prop where
  published : task.published = some own
  covers : own ∈ task.awaited
  copied : ∃ publish : Publish (Queue × Message), log[own]? = some publish ∧
    publish.payload.2.content = task.message.content

/-- What holds of a task at each await. -/
inductive Stage (log : ConfirmLog (Queue × Message)) (task : Task) : Prop
  | before (early : beforePublish task.pc = true) (unpublished : task.published = none)
      (unsettled : task.settlement = none)
  | waiting (own : Nat) (copy : CopyId) (suspended : task.pc = .confirming copy)
      (owns : Owns log task own) (unsettled : task.settlement = none)
  | resolved (own : Nat) (here : task.pc = .confirmed (.resolved ())) (owns : Owns log task own)
      (resolves : log.Resolves task.awaited) (unsettled : task.settlement = none)
  | rejected (own : Nat) (here : task.pc = .confirmed .rejected) (owns : Owns log task own)
      (rejects : log.Rejects task.awaited) (unsettled : task.settlement = none)
  | acked (own : Nat) (returned : task.pc = .returned) (owns : Owns log task own)
      (resolves : log.Resolves task.awaited) (settled : task.settlement = some .ack)
  | nacked (own : Nat) (returned : task.pc = .returned) (owns : Owns log task own)
      (rejects : log.Rejects task.awaited) (settled : task.settlement = some .nackRequeue)
  | unpublished (settlement : Settlement) (returned : task.pc = .returned)
      (unpublished : task.published = none) (settled : task.settlement = some settlement)
  | escaped (rejected : task.pc = .rejected) (unpublished : task.published = none)
      (unsettled : task.settlement = none)

section Stages

variable {log log' : ConfirmLog (Queue × Message)} {task : Task}

theorem Owns.mono {own : Nat} (further : log'.Extends log) (owns : Owns log task own) :
    Owns log' task own := by
  obtain ⟨publish, present, content⟩ := owns.copied
  obtain ⟨publish', still, payload, _⟩ := further own publish present
  exact ⟨owns.published, owns.covers, publish', still, payload ▸ content⟩

theorem Stage.mono (further : log'.Extends log) (stage : Stage log task) : Stage log' task := by
  cases stage with
  | before early unpublished unsettled => exact .before early unpublished unsettled
  | waiting own copy suspended owns unsettled =>
    exact .waiting own copy suspended (Owns.mono further owns) unsettled
  | resolved own here owns resolves unsettled =>
    exact .resolved own here (Owns.mono further owns) (resolves.mono further) unsettled
  | rejected own here owns rejects unsettled =>
    exact .rejected own here (Owns.mono further owns) (rejects.mono further) unsettled
  | acked own returned owns resolves settled =>
    exact .acked own returned (Owns.mono further owns) (resolves.mono further) settled
  | nacked own returned owns rejects settled =>
    exact .nacked own returned (Owns.mono further owns) (rejects.mono further) settled
  | unpublished settlement returned unpublished settled =>
    exact .unpublished settlement returned unpublished settled
  | escaped rejected unpublished unsettled => exact .escaped rejected unpublished unsettled

theorem Stage.delivered (message : Message) :
    Stage log ⟨message, firstAwait message.content, none, [], none⟩ := by
  unfold firstAwait
  cases start message.content with
  | ok orderId => exact .before rfl rfl rfl
  | error text => exact .escaped rfl rfl rfl

/-- The task after the segment of a step. -/
theorem Stage.resumed {sendThrows : Bool} {segment : Segment} (stage : Stage log task)
    (taken : resume task.message log.length ⟨false, false, sendThrows⟩ task.pc = some segment) :
    (∀ copy, segment.sent = some copy →
      Stage (log.publish copy) { task with
        pc := segment.pc
        published := some log.length
        awaited := (log.publish copy).outstanding }) ∧
    (segment.sent = none →
      Stage log { task with
        pc := segment.pc
        settlement := task.settlement.or segment.settled }) := by
  cases stage with
  | before early unpublished unsettled =>
    -- it goes on, settles, publishes or throws, and only a publish starts a wait
    cases openSegment early taken with
    | advances next still =>
      refine ⟨fun _ sent => ?_, fun _ => .before still unpublished (by simp [unsettled])⟩
      cases sent
    | acks =>
      exact ⟨fun _ sent => (by cases sent),
        fun _ => .unpublished .ack rfl unpublished (by simp [unsettled])⟩
    | publishes queue copy content =>
      refine ⟨fun _ sent => ?_, fun unsent => by cases unsent⟩
      cases sent
      exact .waiting _ _ rfl ⟨rfl, ConfirmLog.published_outstanding _, _,
        ConfirmLog.get_published _, content⟩ unsettled
    | sendThrew =>
      exact ⟨fun _ sent => (by cases sent),
        fun _ => .unpublished .nackRequeue rfl unpublished (by simp [unsettled])⟩
    | counterThrew =>
      exact ⟨fun _ sent => (by cases sent), fun _ => .escaped rfl unpublished (by simp [unsettled])⟩
  | resolved own here owns resolves unsettled =>
    rw [here] at taken
    cases taken
    exact ⟨fun _ sent => (by cases sent),
      fun _ => .acked own rfl ⟨owns.published, owns.covers, owns.copied⟩ resolves
        (by simp [unsettled, afterConfirm])⟩
  | rejected own here owns rejects unsettled =>
    rw [here] at taken
    cases taken
    exact ⟨fun _ sent => (by cases sent),
      fun _ => .nacked own rfl ⟨owns.published, owns.covers, owns.copied⟩ rejects
        (by simp [unsettled, afterConfirm, nackAndReturn])⟩
  | waiting own copy here | acked own here | nacked own here | unpublished settlement here
  | escaped here =>
    rw [here] at taken
    cases taken

end Stages

namespace SharedChannel

variable {s s' : SharedChannel} {a : ChannelAction}

/-- Every task is at a stage that the broker's verdicts agree with. -/
def Staged (s : SharedChannel) : Prop :=
  ∀ (id : Nat) (task : Task), s.tasks[id]? = some task → Stage s.publishes task

theorem Staged.step (staged : Staged s) (acts : Acts s a s') : Staged s' := by
  intro id task found
  cases acts with
  | delivered message free =>
    rcases Registry.of_added found with old | ⟨_, rfl⟩
    · exact staged id task old
    · exact .delivered message
  | answered mover outcomes before pc present elsewhere awaited =>
    rcases Registry.of_set found with ⟨rfl, rfl⟩ | ⟨_, old⟩
    · obtain ⟨early, still⟩ := settle_early elsewhere awaited
      cases staged id before present with
      | before _ unpublished unsettled => exact .before still unpublished unsettled
      | waiting own copy here | resolved own here | rejected own here | acked own here
      | nacked own here | unpublished settlement here | escaped here =>
        rw [here] at early
        cases early
    · exact staged id task old
  | resolved mover before copy present suspended resolves =>
    -- only a waiting task is answered
    rcases Registry.of_set found with ⟨rfl, rfl⟩ | ⟨_, old⟩
    · cases staged id before present with
      | waiting own copy here owns unsettled =>
        exact .resolved own rfl ⟨owns.published, owns.covers, owns.copied⟩ resolves unsettled
      | before early =>
        rw [suspended] at early
        cases early
      | resolved own here | rejected own here | acked own here | nacked own here
      | unpublished settlement here | escaped here => cases here.symm.trans suspended
    · exact staged id task old
  | rejected mover before copy present suspended rejects =>
    rcases Registry.of_set found with ⟨rfl, rfl⟩ | ⟨_, old⟩
    · cases staged id before present with
      | waiting own copy here owns unsettled =>
        exact .rejected own rfl ⟨owns.published, owns.covers, owns.copied⟩ rejects unsettled
      | before early =>
        rw [suspended] at early
        cases early
      | resolved own here | rejected own here | acked own here | nacked own here
      | unpublished settlement here | escaped here => cases here.symm.trans suspended
    · exact staged id task old
  | published mover sendThrows before segment copy present taken sent =>
    rcases Registry.of_set found with ⟨rfl, rfl⟩ | ⟨_, old⟩
    · exact (Stage.resumed (staged id before present) taken).1 copy sent
    · exact Stage.mono (ConfirmLog.extends_publish copy) (staged id task old)
  | resumed mover sendThrows before segment present taken unsent =>
    rcases Registry.of_set found with ⟨rfl, rfl⟩ | ⟨_, old⟩
    · exact (Stage.resumed (staged id before present) taken).2 unsent
    · exact staged id task old
  | judged publish verdict publishes answered =>
    exact Stage.mono (ConfirmLog.extends_answer answered) (staged id task found)

theorem staged_invariant {allowed : SharedChannel → ChannelAction → Prop}
    (reachable : system.Reachable allowed s) : Staged s := by
  refine reachable.invariant ?_ ?_
  · rintro s rfl id task found
    simp at found
  · intro s a s' _ staged _ taken
    exact staged.step (step_acts taken)

/-- The broker has confirmed the task's own copy. -/
def CopyConfirmed (log : ConfirmLog (Queue × Message)) (task : Task) : Prop :=
  ∃ own, task.published = some own ∧ log.verdict own = some .confirmed

/-- The broker does not nack what a task with a confirmed copy waits for, nor confirm the copy of
a task that waits for something it nacked. -/
def keepsApart (s : SharedChannel) : ChannelAction → Prop
  | .verdict id .nacked =>
    ∀ task ∈ s.tasks, id ∈ task.awaited → ¬CopyConfirmed s.publishes task
  | .verdict id .confirmed =>
    ∀ task ∈ s.tasks, task.published = some id → ¬s.publishes.Rejects task.awaited
  | _ => True

/-- No wait of a task with a confirmed copy can fail. -/
def Apart (s : SharedChannel) : Prop :=
  ∀ (id : Nat) (task : Task), s.tasks[id]? = some task → CopyConfirmed s.publishes task →
    ¬s.publishes.Rejects task.awaited

theorem Apart.judged {id : Nat} {verdict : Verdict} {publishes : ConfirmLog (Queue × Message)}
    (apart : Apart s) (condition : keepsApart s (.verdict id verdict))
    (answered : s.publishes.answer id verdict = some publishes) : Apart { s with publishes } := by
  obtain ⟨pending, verdicts⟩ := ConfirmLog.verdict_answer answered
  rintro position task found ⟨own, published, confirmed⟩ ⟨awaited, member, nacked⟩
  have present : task ∈ s.tasks := List.mem_of_getElem? found
  simp only [verdicts] at confirmed nacked
  cases verdict with
  | confirmed =>
    -- the nack is an old one
    have old : s.publishes.verdict awaited = some .nacked := by
      split at nacked
      · cases nacked
      · exact nacked
    split at confirmed
    next same => exact condition task present (same ▸ published) ⟨awaited, member, old⟩
    · exact apart position task found ⟨own, published, confirmed⟩ ⟨awaited, member, old⟩
  | nacked =>
    -- the confirm is an old one
    have old : s.publishes.verdict own = some .confirmed := by
      split at confirmed
      · cases confirmed
      · exact confirmed
    split at nacked
    next same => exact condition task present (same ▸ member) ⟨own, published, old⟩
    · exact apart position task found ⟨own, published, old⟩ ⟨awaited, member, nacked⟩

theorem Apart.step (apart : Apart s) (condition : keepsApart s a)
    (acts : Acts s a s') : Apart s' := by
  cases acts with
  | judged id verdict publishes answered => exact apart.judged condition answered
  | delivered message free =>
    intro id task found
    rcases Registry.of_added found with old | ⟨_, rfl⟩
    · exact apart id task old
    · rintro ⟨own, published, _⟩
      cases published
  | answered mover outcomes before pc present | resolved mover before copy present
  | rejected mover before copy present | resumed mover sendThrows before segment present =>
    intro id task found
    rcases Registry.of_set found with ⟨rfl, rfl⟩ | ⟨_, old⟩
    · exact apart id before present
    · exact apart id task old
  | published mover sendThrows before segment copy present =>
    rintro id task found ⟨own, published, confirmed⟩ ⟨awaited, member, nacked⟩
    simp only [ConfirmLog.verdict_publish] at confirmed nacked
    rcases Registry.of_set found with ⟨rfl, rfl⟩ | ⟨_, old⟩
    · -- its publish is not answered yet
      cases published
      simp [ConfirmLog.verdict] at confirmed
    · exact apart id task old ⟨own, published, confirmed⟩ ⟨awaited, member, nacked⟩

theorem apart_invariant (reachable : system.Reachable keepsApart s) : Apart s := by
  refine reachable.invariant ?_ ?_
  · rintro s rfl id task found
    simp at found
  · intro s a s' before apart condition taken
    exact apart.step condition (step_acts taken)

/-- A wait that has only confirms to wait for ends in an ack. -/
theorem acks_next {id : Nat} {task : Task} {copy : CopyId} (found : s.tasks[id]? = some task)
    (suspended : task.pc = .confirming copy) (unsettled : task.settlement = none)
    (resolves : s.publishes.Resolves task.awaited) (sendThrows : Bool) :
    ∃ s₁ s₂ after, s.step (.waitEnds id true) = some s₁ ∧
      s₁.step (.resumes id sendThrows) = some s₂ ∧ s₂.tasks[id]? = some after ∧
      after.settlement = some .ack := by
  let waited : Task := { task with pc := .confirmed (.resolved ()) }
  let acked : Task := { task with pc := .returned, settlement := some .ack }
  refine ⟨{ s with tasks := s.tasks.set id waited },
    { s with tasks := (s.tasks.set id waited).set id acked }, acked, ?_, ?_,
    Registry.set_self (Registry.set_self found), rfl⟩
  · simp [step, waitEnds, found, suspended, resolves, waited]
  · have present : (s.tasks.set id waited)[id]? = some waited := Registry.set_self found
    simp only [step, resumes, present]
    simp [waited, resume, afterConfirm, acked, unsettled]

/-- **When executions on one channel interfere.** An execution that has ended and whose own copy
was confirmed acked its delivery exactly when nothing its wait covered was nacked. In a run in
which the broker keeps every such wait apart from nacks, no delivery with a confirmed copy is put
back, each is acked when its execution ends, and an execution still waiting acks as soon as its
wait is answered. -/
theorem confirmed_copy_acked (s : SharedChannel) (reachable : system.Reachable anyStep s) :
    (∀ (id : Nat) (task : Task), s.tasks[id]? = some task → task.pc = .returned →
      CopyConfirmed s.publishes task →
      (task.settlement = some .ack ↔ ¬s.publishes.Rejects task.awaited)) ∧
    (system.Reachable keepsApart s →
      ∀ (id : Nat) (task : Task), s.tasks[id]? = some task → CopyConfirmed s.publishes task →
        task.settlement ≠ some .nackRequeue ∧ (task.pc = .returned → task.settlement = some .ack) ∧
        ∀ copy, task.pc = .confirming copy →
          (∀ publish ∈ task.awaited, s.publishes.verdict publish ≠ none) → ∀ sendThrows,
          ∃ s₁ s₂ after, s.step (.waitEnds id true) = some s₁ ∧
            s₁.step (.resumes id sendThrows) = some s₂ ∧ s₂.tasks[id]? = some after ∧
            after.settlement = some .ack) := by
  have staged := staged_invariant reachable
  constructor
  · rintro id task found returned ⟨own, published, confirmed⟩
    cases staged id task found with
    | acked _ _ _ resolves settled => simp [settled, resolves.not_rejects]
    | nacked _ _ _ rejects settled => simp [settled, rejects]
    | unpublished settlement _ unpublished => cases unpublished.symm.trans published
    | before early =>
      rw [returned] at early
      cases early
    | waiting _ _ here | resolved _ here | rejected _ here | escaped here =>
      cases here.symm.trans returned
  · intro kept id task found confirmed
    have apart := apart_invariant kept id task found confirmed
    obtain ⟨own, published, _⟩ := confirmed
    cases staged id task found with
    | before early _ unsettled =>
      refine ⟨by simp [unsettled], fun returned => ?_, fun copy waiting _ _ => ?_⟩
      · rw [returned] at early
        cases early
      · rw [waiting] at early
        cases early
    | waiting _ _ here _ unsettled =>
      refine ⟨by simp [unsettled], fun returned => (by cases here.symm.trans returned), ?_⟩
      intro copy suspended answered sendThrows
      -- everything it waits for is answered, and nothing of it was nacked
      have resolves := (ConfirmLog.resolves_or_rejects answered).resolve_right apart
      exact acks_next found suspended unsettled resolves sendThrows
    | resolved _ here _ _ unsettled | rejected _ here _ _ unsettled | escaped here _ unsettled =>
      exact ⟨by simp [unsettled], fun returned => (by cases here.symm.trans returned),
        fun copy waiting => (by cases here.symm.trans waiting)⟩
    | acked _ here _ _ settled =>
      exact ⟨by simp [settled], fun _ => settled,
        fun copy waiting => (by cases here.symm.trans waiting)⟩
    -- it would have nacked because of a rejected wait
    | nacked _ _ _ rejects => exact absurd rejects apart
    | unpublished _ _ unpublished => cases unpublished.symm.trans published

/-- Two deliveries meet a held lock. The second execution publishes while the first copy is still
outstanding; the broker confirms the second copy and answers the first with `verdict`. -/
def overlap (verdict : Verdict) : List ChannelAction :=
  let contended : Outcomes := { Outcomes.calm (.resolved none) with lock := .resolved false }
  [.deliver (RabbitMqService.message 7 "a"), .deliver (RabbitMqService.message 8 "b"),
    .answered 0 contended, .resumes 0 false, .answered 0 contended, .resumes 0 false,
    .answered 1 contended, .resumes 1 false, .answered 1 contended, .resumes 1 false,
    .verdict 1 .confirmed, .verdict 0 verdict, .waitEnds 1 (decide (verdict = .confirmed)),
    .resumes 1 false]

/-- The state after those of the actions that are possible. -/
def after (actions : List ChannelAction) : SharedChannel :=
  system.play (fun _ _ => true) ⟨[], []⟩ actions

theorem after_reachable (actions : List ChannelAction) :
    system.Reachable anyStep (after actions) :=
  Transition.System.play_reachable _ (fun _ _ _ => trivial) (.init rfl) actions

/-- Both copies are confirmed, and the second execution acks. -/
theorem overlap_acked : ∃ task, (after (overlap .confirmed)).tasks[1]? = some task ∧
    task.settlement = some .ack := by
  have ended : ((after (overlap .confirmed)).tasks[1]?).map (fun task =>
      (task.pc, task.published, task.awaited)) = some (.returned, some 1, [0, 1]) := by
    decide +kernel
  obtain ⟨task, found, same⟩ := Option.map_eq_some_iff.mp ended
  simp only [Prod.mk.injEq] at same
  obtain ⟨returned, published, awaited⟩ := same
  refine ⟨task, found, ?_⟩
  refine ((confirmed_copy_acked _ (after_reachable _)).1 1 task found returned
    ⟨1, published, by decide +kernel⟩).mpr ?_
  rw [awaited]
  decide +kernel

/-- The first copy is nacked: the second execution nacks its delivery although its own copy is
confirmed, and the message is there twice. -/
theorem overlap_nacked :
    ¬∀ s, system.Reachable anyStep s → ∀ (id : Nat) (task : Task), s.tasks[id]? = some task →
      task.pc = .returned → CopyConfirmed s.publishes task → task.settlement = some .ack := by
  intro claim
  have ended : ((after (overlap .nacked)).tasks[1]?).map (fun task =>
      (task.pc, task.published, task.settlement)) =
      some (.returned, some 1, some .nackRequeue) := by
    decide +kernel
  obtain ⟨task, found, same⟩ := Option.map_eq_some_iff.mp ended
  simp only [Prod.mk.injEq] at same
  obtain ⟨returned, published, settled⟩ := same
  have acked := claim _ (after_reachable _) 1 task found returned
    ⟨1, published, by decide +kernel⟩
  cases settled.symm.trans acked

end SharedChannel

end OrderNotificationConsumer

end FlashSaleLab
