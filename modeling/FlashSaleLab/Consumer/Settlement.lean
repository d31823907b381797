import FlashSaleLab.Consumer.Steps

/-!
# One execution of `handleMessage` from its start to its end

With the outcomes of its calls given, an execution is a list of deeds. It acks or nacks its
delivery exactly once, after at most one `sendToQueue`, unless an exception leaves it outside
every `try`: the conversion of the `orderId` into a key, or of a counter into a number.
-/
namespace FlashSaleLab

namespace OrderNotificationConsumer

/-- How the calls of an execution end, and what the channel's synchronous calls do in the segment
after each await. Calls that log their failure and resolve have no outcome here. -/
structure Outcomes where
  check : Settled (Option String)
  lock : Settled Bool
  notification : Settled Unit
  confirm : Settled Unit
  ops : HandlerPc → ChannelOps

/-- What others can see of an execution. `sentToQueue none` is a `sendToQueue` that threw. -/
inductive Deed where
  | foundProcessed
  | notified
  | sentToQueue (sent : Option (Queue × Message))
  | confirmed
  | settled (settlement : Settlement)

/-- The awaited call ends; nothing is awaited after the end. -/
def Outcomes.settle (outcomes : Outcomes) : HandlerPc → Option HandlerPc
  | .checking => some (.checked outcomes.check)
  | .locking => some (.locked outcomes.lock)
  | .notifying => some (.notified outcomes.notification)
  | .marking => some .marked
  | .releasing => some .released
  | .cleaningUp _ => some .cleanedUp
  | .confirming _ => some (.confirmed outcomes.confirm)
  | _ => none

/-- What the end of an await shows. -/
def observed : HandlerPc → List Deed
  | .checked (.resolved (some text)) => if text = "" then [] else [.foundProcessed]
  | .notified (.resolved _) => [.notified]
  | .confirmed (.resolved _) => [.confirmed]
  | _ => []

/-- The segment calls `sendToQueue`, whether or not that throws. -/
def sendsIn (message : Message) (ops : ChannelOps) (pc : HandlerPc) : Bool :=
  (resume message 0 { ops with sendThrows := false } pc).any fun segment => segment.sent.isSome

/-- The channel calls of a segment. -/
def deedsIn (message : Message) (ops : ChannelOps) (pc : HandlerPc) (segment : Segment) :
    List Deed :=
  (if sendsIn message ops pc then [.sentToQueue segment.sent] else []) ++
    (segment.settled.map Deed.settled).toList

/-- Where an execution is after at most `fuel` awaits, and what it did on the way. -/
def execute (message : Message) (outcomes : Outcomes) : Nat → HandlerPc → HandlerPc × List Deed
  | 0, pc => (pc, [])
  | fuel + 1, pc =>
    match outcomes.settle pc with
    | none => (pc, [])
    | some settled =>
      match resume message 0 (outcomes.ops settled) settled with
      | none => (settled, [])
      | some segment =>
        let rest := execute message outcomes fuel segment.pc
        (rest.1, observed settled ++
          deedsIn message (outcomes.ops settled) settled segment ++ rest.2)

/-- Where an execution is once the consume callback returns. -/
def firstAwait (content : Content) : HandlerPc :=
  match start content with
  | .ok _ => .checking
  -- an exception before the first `try`
  | .error _ => .rejected

/-- An execution awaits at most seven calls. -/
def handleMessage (message : Message) (outcomes : Outcomes) : HandlerPc × List Deed :=
  execute message outcomes 7 (firstAwait message.content)

/-- The settlements that took effect. -/
def settlements (deeds : List Deed) : List Settlement :=
  deeds.filterMap fun
    | .settled settlement => some settlement
    | _ => none

def sends (deeds : List Deed) : List (Option (Queue × Message)) :=
  deeds.filterMap fun
    | .sentToQueue sent => some sent
    | _ => none

/-- What an ack may rest on: the processed key, this execution's notification, or a copy of the
message whose publish was confirmed before. -/
def Justified (message : Message) (deeds : List Deed) : Prop :=
  .foundProcessed ∈ deeds ∨ .notified ∈ deeds ∨ ∃ queue copy, copy.content = message.content ∧
    [.sentToQueue (some (queue, copy)), .confirmed, .settled .ack].Sublist deeds

/-- Every ack and nack takes effect. -/
def Outcomes.Open (outcomes : Outcomes) : Prop :=
  ∀ pc, (outcomes.ops pc).ackThrows = false ∧ (outcomes.ops pc).nackThrows = false

/-- Every channel call works and the broker confirms what is published. -/
structure Outcomes.Delivers (outcomes : Outcomes) : Prop where
  settles : outcomes.Open
  sends : ∀ pc, (outcomes.ops pc).sendThrows = false
  confirms : outcomes.confirm = .resolved ()

/-- The header that is converted to a number once the check found nothing, if any. -/
def Outcomes.lateCounter (outcomes : Outcomes) : Option String :=
  match outcomes.lock with
  | .rejected => some "retry-count"
  | .resolved false => some "processing-retry-count"
  | .resolved true =>
    match outcomes.notification with
    | .rejected => some "retry-count"
    -- the ack after the notification threw
    | .resolved _ => if (outcomes.ops .released).ackThrows then some "retry-count" else none

/-- The header an execution converts to a number on its way to a publish site, if any. -/
def Outcomes.counter (outcomes : Outcomes) : Option String :=
  match outcomes.check with
  | .rejected => some "retry-count"
  | .resolved none => outcomes.lateCounter
  | .resolved (some text) =>
    if text = "" then outcomes.lateCounter
    -- the duplicate's ack threw
    else if (outcomes.ops (.checked (.resolved (some text)))).ackThrows then some "retry-count"
    else none

/-- The header the execution reads, if any, is one that `Number(…)` converts. -/
def Outcomes.CounterConverts (message : Message) (outcomes : Outcomes) : Prop :=
  ∀ key, outcomes.counter = some key → ∃ n, message.headers.count key = .ok n

/-- What holds of the deeds of an execution that returned. -/
structure Done (message : Message) (outcomes : Outcomes) (deeds : List Deed) : Prop where
  atMostOnce : (settlements deeds).length ≤ 1
  once : outcomes.Open → (settlements deeds).length = 1
  sendsOnce : (sends deeds).length ≤ 1
  acks : .ack ∈ settlements deeds → Justified message deeds

/-- Nothing was sent and nothing settled yet. -/
def Silent (deeds : List Deed) : Prop := settlements deeds = [] ∧ sends deeds = []

/-- What the deeds so far are, and which outcomes led here, by the await. -/
inductive Progress (message : Message) (outcomes : Outcomes) : HandlerPc → List Deed → Prop
  | checking : Progress message outcomes .checking []
  | locking (counter : outcomes.counter = outcomes.lateCounter) :
      Progress message outcomes .locking []
  | notifying (counter : outcomes.counter = outcomes.lateCounter)
      (acquired : outcomes.lock = .resolved true) : Progress message outcomes .notifying []
  | marking (counter : outcomes.counter = outcomes.lateCounter)
      (acquired : outcomes.lock = .resolved true)
      (completed : outcomes.notification = .resolved ()) :
      Progress message outcomes .marking [.notified]
  | releasing (counter : outcomes.counter = outcomes.lateCounter)
      (acquired : outcomes.lock = .resolved true)
      (completed : outcomes.notification = .resolved ()) :
      Progress message outcomes .releasing [.notified]
  | cleaningUp (again : Bool) (deeds : List Deed) (quiet : Silent deeds)
      (counter : outcomes.counter = some "retry-count") :
      Progress message outcomes (.cleaningUp again) deeds
  | confirming (fresh : CopyId) (before : List Deed) (queue : Queue) (copy : Message)
      (quiet : Silent before) (content : copy.content = message.content)
      (converts : outcomes.CounterConverts message) :
      Progress message outcomes (.confirming fresh)
        (before ++ [.sentToQueue (some (queue, copy))])
  | returned (deeds : List Deed) (converts : outcomes.CounterConverts message)
      (done : Done message outcomes deeds)
      (delivered : outcomes.Delivers → .ack ∈ settlements deeds) :
      Progress message outcomes .returned deeds
  | rejected (deeds : List Deed) (unsettled : settlements deeds = []) (key text : String)
      (counter : outcomes.counter = some key)
      (throws : message.headers.count key = .error text) :
      Progress message outcomes .rejected deeds

/-- A segment that converts a counter and goes on to a publish site. -/
def Site (message : Message) (key : String) (fresh : CopyId) (ops : ChannelOps)
    (segment : Segment) : Prop :=
  (∃ text, message.headers.count key = .error text ∧ segment = ⟨none, none, .rejected⟩) ∨
  ∃ n queue copy, message.headers.count key = .ok n ∧ segment = publish queue copy fresh ops ∧
    copy.content = message.content

section Execution

variable {message : Message} {outcomes : Outcomes} {ops : ChannelOps} {before : List Deed}
  {pc settled : HandlerPc} {segment : Segment} {key : String}

@[simp] theorem settlements_append (first second : List Deed) :
    settlements (first ++ second) = settlements first ++ settlements second :=
  List.filterMap_append

@[simp] theorem sends_append (first second : List Deed) :
    sends (first ++ second) = sends first ++ sends second :=
  List.filterMap_append

@[simp] theorem settlements_settled (settlement : Settlement) (deeds : List Deed) :
    settlements (.settled settlement :: deeds) = settlement :: settlements deeds :=
  rfl

@[simp] theorem settlements_sentToQueue (sent : Option (Queue × Message)) (deeds : List Deed) :
    settlements (.sentToQueue sent :: deeds) = settlements deeds :=
  rfl

@[simp] theorem settlements_nil : settlements [] = [] :=
  rfl

@[simp] theorem sends_settled (settlement : Settlement) (deeds : List Deed) :
    sends (.settled settlement :: deeds) = sends deeds :=
  rfl

@[simp] theorem sends_sentToQueue (sent : Option (Queue × Message)) (deeds : List Deed) :
    sends (.sentToQueue sent :: deeds) = sent :: sends deeds :=
  rfl

@[simp] theorem sends_nil : sends [] = [] :=
  rfl

theorem observed_silent (pc : HandlerPc) : Silent (observed pc) := by
  unfold observed
  split
  · split
    · exact ⟨rfl, rfl⟩
    · exact ⟨rfl, rfl⟩
  all_goals exact ⟨rfl, rfl⟩

/-- The three blocks that publish have one shape. -/
theorem site_of_choice {fresh : CopyId} {limit : JsNumber → Bool}
    {exhausted again : JsNumber → Message}
    {queue : Queue} (content : ∀ n, (exhausted n).content = message.content)
    (contentAgain : ∀ n, (again n).content = message.content) :
    Site message key fresh ops
      (match message.headers.count key with
      | .error _ => ⟨none, none, .rejected⟩
      | .ok n =>
        if limit n then publish .dlq (exhausted n) fresh ops
        else publish queue (again n) fresh ops) := by
  cases count : message.headers.count key with
  | error text => exact Or.inl ⟨text, count, rfl⟩
  | ok n =>
    right
    simp only
    split
    · exact ⟨n, _, _, count, rfl, content n⟩
    · exact ⟨n, _, _, count, rfl, contentAgain n⟩

/-- The end of an execution that gives its delivery back. -/
theorem Done.gaveUp (unsettled : settlements before = []) (sent : (sends before).length ≤ 1)
    (open_ : outcomes.Open → ops.nackThrows = false) :
    Done message outcomes
      (before ++ ((nackAndReturn ops).settled.map Deed.settled).toList) := by
  cases nack : ops.nackThrows with
  | true =>
    -- the channel is closed: nothing takes effect any more
    have none : (nackAndReturn ops).settled = none := by simp [nackAndReturn, nack]
    rw [none]
    constructor
    · simp [unsettled]
    · intro opened
      cases nack.symm.trans (open_ opened)
    · simpa using sent
    · simp [unsettled]
  | false =>
    have nacked : (nackAndReturn ops).settled = some .nackRequeue := by
      simp [nackAndReturn, nack]
    rw [nacked]
    constructor
    · simp [unsettled]
    · intro _
      simp [unsettled]
    · simpa using sent
    · simp [unsettled]

/-- The end of an execution that acks. -/
theorem Done.acked (unsettled : settlements before = []) (sent : (sends before).length ≤ 1)
    (justified : Justified message (before ++ [.settled .ack])) :
    Done message outcomes (before ++ [.settled .ack]) where
  atMostOnce := by simp [unsettled]
  once _ := by simp [unsettled]
  sendsOnce := by simpa using sent
  acks _ := justified

theorem redisFailed_site (message : Message) (fresh : CopyId) (ops : ChannelOps) :
    Site message "retry-count" fresh ops (redisFailed message fresh ops) :=
  site_of_choice (fun _ => rfl) (fun _ => rfl)

theorem lockNotAcquired_site (message : Message) (fresh : CopyId) (ops : ChannelOps) :
    Site message "processing-retry-count" fresh ops (lockNotAcquired message fresh ops) :=
  site_of_choice (fun _ => rfl) (fun _ => rfl)

theorem processingFailed_site (message : Message) (fresh : CopyId) (ops : ChannelOps) :
    Site message "retry-count" fresh ops (processingFailed message fresh ops) :=
  site_of_choice (fun _ => rfl) (fun _ => rfl)

/-- A segment without channel calls. -/
theorem deedsIn_silent (resumed : ∀ ops', ops'.ackThrows = ops.ackThrows →
      resume message 0 ops' pc = some segment)
    (unsent : segment.sent = none) (unsettled : segment.settled = none) :
    deedsIn message ops pc segment = [] := by
  simp [deedsIn, sendsIn, resumed { ops with sendThrows := false } rfl, unsent, unsettled]

/-- A segment that settles and sends nothing. -/
theorem deedsIn_settled (resumed : ∀ ops', ops'.ackThrows = ops.ackThrows →
      resume message 0 ops' pc = some segment) {settlement : Settlement}
    (unsent : segment.sent = none) (settles : segment.settled = some settlement) :
    deedsIn message ops pc segment = [.settled settlement] := by
  simp [deedsIn, sendsIn, resumed { ops with sendThrows := false } rfl, unsent, settles]

/-- At a publish site the execution goes on to wait for the confirm, or gives up. -/
theorem Progress.site (quiet : Silent before) (counter : outcomes.counter = some key)
    (resumed : ∀ ops', ops'.ackThrows = ops.ackThrows →
      ∃ segment, resume message 0 ops' pc = some segment ∧ Site message key 0 ops' segment)
    (taken : resume message 0 ops pc = some segment)
    (open_ : outcomes.Open → ops.nackThrows = false)
    (sending : outcomes.Delivers → ops.sendThrows = false) :
    Progress message outcomes segment.pc (before ++ deedsIn message ops pc segment) := by
  obtain ⟨_, same, here⟩ := resumed ops rfl
  cases taken.symm.trans same
  -- the same segment where `sendToQueue` does not throw
  obtain ⟨calm, calmly, there⟩ := resumed { ops with sendThrows := false } rfl
  rcases here with ⟨text, throws, rfl⟩ | ⟨n, queue, copy, converts, rfl, content⟩
  · refine .rejected _ ?_ key text counter throws
    unfold deedsIn
    split <;> simp [quiet.1]
  have converted : outcomes.CounterConverts message := by
    intro other read
    cases counter.symm.trans read
    exact ⟨n, converts⟩
  have reached : sendsIn message ops pc = true := by
    rcases there with ⟨_, throws, _⟩ | ⟨_, queue', copy', _, rfl, _⟩
    · cases converts.symm.trans throws
    · simp [sendsIn, calmly, publish]
  unfold deedsIn publish
  rw [reached]
  cases thrown : ops.sendThrows with
  | false =>
    have sent : Progress message outcomes (.confirming 0)
        (before ++ [.sentToQueue (some (queue, copy))]) :=
      .confirming 0 before queue copy quiet content converted
    simpa using sent
  | true =>
    have unsettled : settlements (before ++ [.sentToQueue none]) = [] := by
      simp [quiet.1]
    have sent : (sends (before ++ [.sentToQueue none])).length ≤ 1 := by
      simp [quiet.2]
    refine .returned _ converted ?_ fun delivers => ?_
    · have gaveUp : Done message outcomes (before ++ [.sentToQueue none] ++
          ((nackAndReturn ops).settled.map Deed.settled).toList) := .gaveUp unsettled sent open_
      simpa [nackAndReturn] using gaveUp
    · cases thrown.symm.trans (sending delivers)

/-- A publish site that the segment reaches whatever `sendToQueue` does. -/
theorem Progress.reaches (quiet : Silent before) (counter : outcomes.counter = some key)
    {block : ChannelOps → Segment} (sites : ∀ ops', Site message key 0 ops' (block ops'))
    (resumed : ∀ ops', ops'.ackThrows = (outcomes.ops settled).ackThrows →
      resume message 0 ops' settled = some (block ops')) :
    ∃ segment, resume message 0 (outcomes.ops settled) settled = some segment ∧
      Progress message outcomes segment.pc
        (before ++ deedsIn message (outcomes.ops settled) settled segment) :=
  ⟨_, resumed _ rfl, .site quiet counter
    (fun ops' same => ⟨_, resumed ops' same, sites ops'⟩) (resumed _ rfl)
    (fun opened => (opened settled).2) fun delivers => delivers.sends settled⟩

/-- A segment that only goes on to the next await. -/
theorem Progress.advances {next : HandlerPc} (deeds : List Deed)
    (progress : Progress message outcomes next deeds)
    (resumed : ∀ ops', ops'.ackThrows = (outcomes.ops settled).ackThrows →
      resume message 0 ops' settled = some ⟨none, none, next⟩) :
    ∃ segment, resume message 0 (outcomes.ops settled) settled = some segment ∧
      Progress message outcomes segment.pc
        (deeds ++ deedsIn message (outcomes.ops settled) settled segment) := by
  refine ⟨_, resumed _ rfl, ?_⟩
  rw [deedsIn_silent resumed rfl rfl, List.append_nil]
  exact progress

/-- A segment that acks. -/
theorem Progress.acks (before : List Deed) (converts : outcomes.CounterConverts message)
    (unsettled : settlements before = []) (sent : (sends before).length ≤ 1)
    (justified : Justified message (before ++ [.settled .ack]))
    (resumed : ∀ ops', ops'.ackThrows = (outcomes.ops settled).ackThrows →
      resume message 0 ops' settled = some ⟨none, some .ack, .returned⟩) :
    ∃ segment, resume message 0 (outcomes.ops settled) settled = some segment ∧
      Progress message outcomes segment.pc
        (before ++ deedsIn message (outcomes.ops settled) settled segment) := by
  refine ⟨_, resumed _ rfl, ?_⟩
  rw [deedsIn_settled resumed rfl rfl]
  exact .returned _ converts (.acked unsettled sent justified) fun _ => by simp

theorem Progress.checked (check : Settled (Option String)) (same : outcomes.check = check) :
    ∃ segment, resume message 0 (outcomes.ops (.checked check)) (.checked check) = some segment ∧
      Progress message outcomes segment.pc (observed (.checked check) ++
        deedsIn message (outcomes.ops (.checked check)) (.checked check) segment) := by
  have quiet := observed_silent (.checked check)
  cases check with
  | rejected =>
    exact Progress.reaches quiet (by simp [Outcomes.counter, same]) (redisFailed_site message 0)
      fun _ _ => rfl
  | resolved reply =>
    cases reply with
    | none =>
      exact Progress.advances [] (.locking (by simp [Outcomes.counter, same])) fun _ _ => rfl
    | some text =>
      by_cases empty : text = ""
      · have absent : observed (.checked (.resolved (some text))) = [] := by
          simp [observed, empty]
        rw [absent]
        exact Progress.advances [] (.locking (by simp [Outcomes.counter, same, empty]))
          fun _ _ => by simp [resume, empty]
      · cases threw : (outcomes.ops (.checked (.resolved (some text)))).ackThrows with
        | true =>
          refine Progress.reaches quiet (by simp [Outcomes.counter, same, empty, threw])
            (redisFailed_site message 0) fun ops' alike => ?_
          simp [resume, empty, alike, threw]
        | false =>
          -- the duplicate is acked
          have found : observed (.checked (.resolved (some text))) = [.foundProcessed] := by
            simp [observed, empty]
          have unread : outcomes.counter = none := by
            simp [Outcomes.counter, same, empty, threw]
          refine Progress.acks _ (by simp [Outcomes.CounterConverts, unread]) quiet.1
            (by simp [quiet.2]) (Or.inl (by simp [found])) fun ops' alike => ?_
          simp [resume, empty, alike, threw]

theorem Progress.locked (lock : Settled Bool) (same : outcomes.lock = lock)
    (counter : outcomes.counter = outcomes.lateCounter) :
    ∃ segment, resume message 0 (outcomes.ops (.locked lock)) (.locked lock) = some segment ∧
      Progress message outcomes segment.pc
        (deedsIn message (outcomes.ops (.locked lock)) (.locked lock) segment) := by
  have quiet : Silent [] := ⟨rfl, rfl⟩
  cases lock with
  | rejected =>
    exact Progress.reaches quiet (by simp [counter, Outcomes.lateCounter, same])
      (redisFailed_site message 0) fun _ _ => rfl
  | resolved acquired =>
    cases acquired with
    | true => exact Progress.advances [] (.notifying counter same) fun _ _ => rfl
    | false =>
      exact Progress.reaches quiet (by simp [counter, Outcomes.lateCounter, same])
        (lockNotAcquired_site message 0) fun _ _ => rfl

theorem Progress.confirmed (quiet : Silent before) {queue : Queue} {copy : Message}
    (content : copy.content = message.content) (converts : outcomes.CounterConverts message)
    (reply : Settled Unit) (same : outcomes.confirm = reply) :
    ∃ segment, resume message 0 (outcomes.ops (.confirmed reply)) (.confirmed reply) =
        some segment ∧
      Progress message outcomes segment.pc (before ++ [.sentToQueue (some (queue, copy))] ++
        (observed (.confirmed reply) ++
          deedsIn message (outcomes.ops (.confirmed reply)) (.confirmed reply) segment)) := by
  have still := observed_silent (.confirmed reply)
  have unsettled : settlements (before ++ [.sentToQueue (some (queue, copy))] ++
      observed (.confirmed reply)) = [] := by simp [quiet.1, still.1]
  have sent : (sends (before ++ [.sentToQueue (some (queue, copy))] ++
      observed (.confirmed reply))).length ≤ 1 := by simp [quiet.2, still.2]
  simp only [← List.append_assoc]
  -- the wait failed, or the ack did: the delivery goes back
  have gaveUp (failed : ¬outcomes.Delivers)
      (resumed : ∀ ops', ops'.ackThrows = (outcomes.ops (.confirmed reply)).ackThrows →
        resume message 0 ops' (.confirmed reply) = some (nackAndReturn ops')) :
      ∃ segment, resume message 0 (outcomes.ops (.confirmed reply)) (.confirmed reply) =
          some segment ∧
        Progress message outcomes segment.pc (before ++ [.sentToQueue (some (queue, copy))] ++
          observed (.confirmed reply) ++
            deedsIn message (outcomes.ops (.confirmed reply)) (.confirmed reply) segment) := by
    refine ⟨_, resumed _ rfl, .returned _ converts ?_ fun delivers => absurd delivers failed⟩
    have silent : sendsIn message (outcomes.ops (.confirmed reply)) (.confirmed reply) = false := by
      simp [sendsIn, resumed { outcomes.ops (.confirmed reply) with sendThrows := false } rfl,
        nackAndReturn]
    unfold deedsIn
    rw [silent]
    exact .gaveUp unsettled sent fun opened => (opened _).2
  cases reply with
  | rejected =>
    refine gaveUp (fun delivers => ?_) fun _ _ => rfl
    cases same.symm.trans delivers.confirms
  | resolved value =>
    cases threw : (outcomes.ops (.confirmed (.resolved value))).ackThrows with
    | true =>
      refine gaveUp (fun delivers => ?_) fun ops' alike => by
        simp [resume, afterConfirm, alike, threw]
      cases threw.symm.trans (delivers.settles _).1
    | false =>
      refine Progress.acks _ converts unsettled sent (Or.inr (Or.inr ⟨queue, copy, content, ?_⟩))
        fun ops' alike => by simp [resume, afterConfirm, alike, threw]
      simp only [observed, List.append_assoc]
      exact List.sublist_append_right before _

/-- The end of an await and the segment after it. -/
theorem Progress.step {deeds : List Deed} (progress : Progress message outcomes pc deeds)
    (awaited : outcomes.settle pc = some settled) :
    ∃ segment, resume message 0 (outcomes.ops settled) settled = some segment ∧
      Progress message outcomes segment.pc (deeds ++
        (observed settled ++ deedsIn message (outcomes.ops settled) settled segment)) := by
  cases progress with
  | checking =>
    cases awaited
    exact Progress.checked _ rfl
  | locking counter =>
    cases awaited
    exact Progress.locked _ rfl counter
  | notifying counter acquired =>
    cases awaited
    cases completed : outcomes.notification with
    | resolved value =>
      exact Progress.advances [.notified] (.marking counter acquired completed) fun _ _ => rfl
    | rejected =>
      exact Progress.advances [] (.cleaningUp false [] ⟨rfl, rfl⟩
        (by simp [counter, Outcomes.lateCounter, acquired, completed])) fun _ _ => rfl
  | marking counter acquired completed =>
    cases awaited
    exact Progress.advances [.notified] (.releasing counter acquired completed) fun _ _ => rfl
  | releasing counter acquired completed =>
    cases awaited
    cases threw : (outcomes.ops .released).ackThrows with
    | true =>
      exact Progress.advances [.notified] (.cleaningUp true [.notified] ⟨rfl, rfl⟩
        (by simp [counter, Outcomes.lateCounter, acquired, completed, threw]))
        fun ops' alike => by simp [resume, alike, threw]
    | false =>
      have unread : outcomes.counter = none := by
        simp [counter, Outcomes.lateCounter, acquired, completed, threw]
      refine Progress.acks [.notified] (by simp [Outcomes.CounterConverts, unread]) rfl
        (by simp [sends]) (Or.inr (Or.inl (by simp))) fun ops' alike => ?_
      simp [resume, alike, threw]
  | cleaningUp again deeds quiet counter =>
    cases awaited
    exact Progress.reaches quiet counter (processingFailed_site message 0) fun _ _ => rfl
  | confirming fresh before queue copy quiet content converts =>
    cases awaited
    exact Progress.confirmed quiet content converts _ rfl
  | returned | rejected => cases awaited

/-- How many awaits may still come. -/
def awaits : HandlerPc → Nat
  | .checking => 7
  | .checked _ | .locking => 6
  | .locked _ | .notifying => 5
  | .notified _ | .marking => 4
  | .marked | .releasing => 3
  | .released | .cleaningUp _ => 2
  | .cleanedUp | .confirming _ => 1
  | .confirmed _ | .returned | .rejected | .crashed => 0

theorem awaits_settle (awaited : outcomes.settle pc = some settled) :
    awaits settled < awaits pc := by
  cases pc <;> cases awaited <;> simp [awaits]

theorem ReadsCounter.awaits_pos (reading : ReadsCounter settled) : 0 < awaits settled := by
  cases reading with
  | redisFailed pc failed => cases failed <;> simp [awaits]
  | lockNotAcquired | processingFailed => simp [awaits]

theorem Republishes.readsCounter {queue : Queue} {copy : Message}
    (site : Republishes message settled queue copy) : ReadsCounter settled := by
  cases site with
  | redisExhausted _ failed | redisRetry _ failed => exact .redisFailed _ failed
  | lockExhausted | lockRetry => exact .lockNotAcquired
  | processingExhausted | processingRetry => exact .processingFailed

theorem awaits_resume (resumed : resume message 0 ops settled = some segment) :
    awaits segment.pc ≤ awaits settled := by
  cases resume_cases resumed with
  | republished pc queue copy site => exact site.readsCounter.awaits_pos
  | _ => simp [awaits]

/-- With nothing left to await the execution is over. -/
theorem Progress.over {deeds : List Deed} (progress : Progress message outcomes pc deeds)
    (idle : outcomes.settle pc = none) : pc = .returned ∨ pc = .rejected := by
  cases progress with
  | returned => exact Or.inl rfl
  | rejected => exact Or.inr rfl
  | _ => cases idle

theorem execute_progress (fuel : Nat) : ∀ {pc : HandlerPc} {deeds : List Deed},
    Progress message outcomes pc deeds → awaits pc ≤ fuel →
    Progress message outcomes (execute message outcomes fuel pc).1
      (deeds ++ (execute message outcomes fuel pc).2) ∧
    outcomes.settle (execute message outcomes fuel pc).1 = none := by
  -- each await uses up one unit of fuel
  induction fuel with
  | zero =>
    intro pc deeds progress enough
    have idle : outcomes.settle pc = none := by
      cases awaited : outcomes.settle pc with
      | none => rfl
      | some settled => exact absurd (awaits_settle awaited) (by omega)
    simpa [execute, idle] using progress
  | succ fuel ih =>
    intro pc deeds progress enough
    cases awaited : outcomes.settle pc with
    | none => simpa [execute, awaited] using progress
    | some settled =>
      obtain ⟨segment, resumed, further⟩ := progress.step awaited
      have closer : awaits segment.pc ≤ fuel := by
        have := awaits_settle awaited
        have := awaits_resume resumed
        omega
      simpa [execute, awaited, resumed] using ih further closer

/-- The body parses, to something whose `orderId` can be read and made part of a key. -/
def Keyed (content : Content) : Prop :=
  match content.parse with
  | none => False
  | some .null => False
  | some (.object fields) => (fields.lookup "orderId").all Json.interpolates = true
  | some _ => True

/-- The execution gets to its first await. -/
theorem start_ok_iff {content : Content} :
    (∃ orderId, start content = .ok orderId) ↔ Keyed content := by
  unfold start Keyed
  cases parsed : content.parse with
  | none => simp
  | some data =>
    cases data with
    | object fields =>
      cases key : (fields.lookup "orderId").all Json.interpolates <;> simp [Json.property, key]
    | _ => simp [Json.property]

theorem firstAwait_keyed {content : Content} (keyed : Keyed content) :
    firstAwait content = .checking := by
  obtain ⟨orderId, started⟩ := start_ok_iff.mpr keyed
  simp [firstAwait, started]

theorem firstAwait_unkeyed {content : Content} (unkeyed : ¬Keyed content) :
    firstAwait content = .rejected := by
  cases started : start content with
  | ok orderId => exact absurd (start_ok_iff.mp ⟨orderId, started⟩) unkeyed
  | error text => simp [firstAwait, started]

/-- How an execution ends. -/
theorem handleMessage_cases (message : Message) (outcomes : Outcomes) :
    (∃ deeds, handleMessage message outcomes = (.returned, deeds) ∧ Keyed message.content ∧
      outcomes.CounterConverts message ∧ Done message outcomes deeds ∧
      (outcomes.Delivers → .ack ∈ settlements deeds)) ∨
    (∃ deeds, handleMessage message outcomes = (.rejected, deeds) ∧ settlements deeds = [] ∧
      ¬(Keyed message.content ∧ outcomes.CounterConverts message)) := by
  by_cases keyed : Keyed message.content
  · unfold handleMessage
    rw [firstAwait_keyed keyed]
    have begun : Progress message outcomes .checking [] := .checking
    obtain ⟨progress, idle⟩ := execute_progress 7 begun le_rfl
    generalize execute message outcomes 7 .checking = ended at progress idle
    obtain ⟨pc, deeds⟩ := ended
    simp only [List.nil_append] at progress idle
    rcases progress.over idle with rfl | rfl
    · cases progress with
      | returned deeds converts done delivered =>
        exact Or.inl ⟨deeds, rfl, keyed, converts, done, delivered⟩
    · cases progress with
      | rejected deeds unsettled read text counter throws =>
        refine Or.inr ⟨deeds, rfl, unsettled, fun both => ?_⟩
        obtain ⟨n, converted⟩ := both.2 read counter
        cases throws.symm.trans converted
  · refine Or.inr ⟨[], ?_, rfl, fun both => keyed both.1⟩
    simp [handleMessage, firstAwait_unkeyed keyed, execute, Outcomes.settle]

end Execution

/-- An execution that ends as it should. -/
structure Disciplined (message : Message) (outcomes : Outcomes)
    (ended : HandlerPc × List Deed) : Prop where
  returned : ended.1 = .returned
  done : Done message outcomes ended.2

/-- An execution settles its delivery exactly once, or at most once on a closed channel, after at
most one `sendToQueue`, and acks only for a reason, if and only if the two conversions that stand
outside every `try` succeed. -/
theorem disciplined_iff {message : Message} (outcomes : Outcomes) {fields : List (String × Json)}
    {orderId : Json} (parsed : message.content.parse = some (.object fields))
    (named : fields.lookup "orderId" = some orderId) :
    Disciplined message outcomes (handleMessage message outcomes) ↔
      orderId.interpolates = true ∧ outcomes.CounterConverts message := by
  have keyed_iff : Keyed message.content ↔ orderId.interpolates = true := by
    simp [Keyed, parsed, named]
  rw [← keyed_iff]
  rcases handleMessage_cases message outcomes with
    ⟨deeds, ended, keyed, converts, done, _⟩ | ⟨deeds, ended, _, failed⟩
  · rw [ended]
    exact ⟨fun _ => ⟨keyed, converts⟩, fun _ => ⟨rfl, done⟩⟩
  · rw [ended]
    constructor
    · intro disciplined
      cases disciplined.returned
    · intro both
      exact absurd both failed

/-- Every call succeeds on an open channel; the check finds `reply`. -/
def Outcomes.calm (check : Settled (Option String)) : Outcomes :=
  ⟨check, .resolved true, .resolved (), .resolved (), fun _ => ⟨false, false, false⟩⟩

/-- The message of order 7 without headers is notified and acked. -/
theorem disciplined_of_order :
    Disciplined (RabbitMqService.message 7 "a") (.calm (.resolved none))
      (handleMessage (RabbitMqService.message 7 "a") (.calm (.resolved none))) :=
  (disciplined_iff (.calm (.resolved none)) rfl rfl).mpr ⟨rfl, fun _ read => by cases read⟩

/-- Redis fails, and `retry-count` is a table that `Number(…)` throws on: the execution ends with
the delivery neither acked nor nacked. -/
theorem undisciplined_of_table :
    ¬∀ (message : Message) (outcomes : Outcomes) (fields : List (String × Json)) (orderId : Json),
      message.content.parse = some (.object fields) →
      fields.lookup "orderId" = some orderId →
      Disciplined message outcomes (handleMessage message outcomes) := by
  intro claim
  have disciplined := claim
    ⟨RabbitMqService.body 7 "a",
      Headers.empty.set "retry-count" (.unconvertible "\x7b toString: 1 \x7d")⟩
    (.calm .rejected) _ _ rfl rfl
  cases disciplined.returned

end OrderNotificationConsumer

end FlashSaleLab
