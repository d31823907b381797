import FlashSaleLab.Consumer.Deliveries
import FlashSaleLab.Consumer.SharedChannel

/-!
# What a channel has outstanding

The broker stops delivering on a channel once `prefetch` deliveries of it are unacked. Only a
delivery takes a channel closer to that limit, and only a delivery starts an execution.
-/
namespace FlashSaleLab

open OrderNotificationConsumer

/-- The copy is outstanding on this channel. -/
def Place.outstandingOn (channel : ChannelId) : Place → Bool
  | .unacked _ own _ => decide (own = channel)
  | _ => false

/-- How many deliveries of a channel the broker waits for. -/
def State.outstanding (s : State) (channel : ChannelId) : Nat :=
  s.copies.countP fun copy => copy.place.outstandingOn channel

section Steps

variable {s s' : State} {a : Action} {id : CopyId} {mover : HandlerId} {channel : ChannelId}
  {handler : Handler}

theorem settle_ended {redis : Redis} {now : Time} {stored : CopyId → Bool} {result : CallResult}
    (ended : handler.pc.ended = true) : settle redis now mover handler stored result = none := by
  cases pc : handler.pc with
  | returned | rejected | crashed => simp [settle, pc]
  | _ => simp [pc, HandlerPc.ended] at ended

theorem resume_ended {message : Message} {fresh : CopyId} {ops : ChannelOps} {pc : HandlerPc}
    (ended : pc.ended = true) : resume message fresh ops pc = none := by
  cases pc with
  | returned | rejected | crashed => rfl
  | _ => simp [HandlerPc.ended] at ended

theorem crash_ended (pc : HandlerPc) : pc.crash.ended = true := by
  cases pc <;> rfl

/-- An execution that runs after a step ran before it, or was started by it. -/
theorem running_before (taken : s.step a = some s') (found : s'.handlers[mover]? = some handler)
    (running : handler.pc.ended = false) (undelivered : ∀ copy channel, a ≠ .deliver copy channel) :
    ∃ before, s.handlers[mover]? = some before ∧ before.pc.ended = false ∧
      before.host = handler.host ∧ before.channel = handler.channel := by
  obtain ⟨t, acts, rfl⟩ := State.step_cases taken
  cases acts with
  | delivered copy given since channel => exact absurd rfl (undelivered copy channel)
  | refused copy given since channel => exact absurd rfl (undelivered copy channel)
  | handlerSettled other before result redis after present settled =>
    obtain ⟨_, _, here, own⟩ := (settle_cases settled).running
    rcases Registry.of_set found with ⟨rfl, rfl⟩ | ⟨_, old⟩
    · refine ⟨before, present, ?_, own.symm, here.symm⟩
      by_contra ended
      cases (settle_ended (by simpa using ended)).symm.trans settled
    · exact ⟨handler, old, running, rfl, rfl⟩
  | handlerResumed other before sendThrows copy segment present held resumed =>
    rcases Registry.of_set found with ⟨rfl, rfl⟩ | ⟨_, old⟩
    · refine ⟨before, present, ?_, rfl, rfl⟩
      by_contra ended
      cases (resume_ended (by simpa using ended)).symm.trans resumed
    · exact ⟨handler, old, running, rfl, rfl⟩
  | crashed host =>
    obtain ⟨before, present, rfl⟩ := Registry.of_map found
    by_cases here : before.host = host
    · simp only [here, if_true, crash_ended] at running
      cases running
    · simp only [here, if_false] at running ⊢
      exact ⟨before, present, running, rfl, rfl⟩
  | _ => exact ⟨handler, found, running, rfl, rfl⟩

/-- Only a delivery makes a copy outstanding. -/
theorem outstanding_before (taken : s.step a = some s') {copy : Copy}
    (found : s'.copies[id]? = some copy) (held : copy.place.outstandingOn channel = true)
    (undelivered : ∀ copy channel, a ≠ .deliver copy channel) :
    ∃ before, s.copies[id]? = some before ∧ before.place.outstandingOn channel = true := by
  obtain ⟨t, acts, rfl⟩ := State.step_cases taken
  have dropped {lost : ChannelId → Bool}
      (present : (s.copies.dropChannels s.now lost)[id]? = some copy) :
      ∃ before, s.copies[id]? = some before ∧ before.place.outstandingOn channel = true := by
    obtain ⟨before, old, rfl⟩ := Registry.of_map present
    refine ⟨before, old, ?_⟩
    cases was : before.place with
    | unacked h c st =>
      simp only [was, Place.dropChannel] at held
      split at held
      · cases held
      · exact held
    | _ => simp [was, Place.dropChannel, Place.outstandingOn] at held
  have moved {other : CopyId} {elsewhere : Place} (away : elsewhere.outstandingOn channel = false)
      (present : (s.copies.move other elsewhere)[id]? = some copy) :
      ∃ before, s.copies[id]? = some before ∧ before.place.outstandingOn channel = true := by
    obtain ⟨before, old, rfl⟩ := Registry.of_modify present
    refine ⟨before, old, ?_⟩
    split at held
    · cases away.symm.trans held
    · exact held
  cases acts with
  | delivered copy given since channel => exact absurd rfl (undelivered copy channel)
  | refused copy given since channel => exact absurd rfl (undelivered copy channel)
  | lost | crashed => exact dropped found
  | stored | deadLettered | acked | requeued => exact moved rfl found
  | published =>
    rcases Registry.of_added found with old | ⟨_, rfl⟩
    · exact ⟨copy, old, held⟩
    · cases held
  | handlerResumed other before sendThrows given segment present kept resumed =>
    cases place : copy.place with
    | unacked h c st =>
      obtain ⟨earlier, settlement, old, was, _⟩ := runSegment_unacked found place
      refine ⟨earlier, old, ?_⟩
      rw [place] at held
      rw [was]
      exact held
    | _ => simp [place, Place.outstandingOn] at held
  | _ => exact ⟨copy, found, held⟩

theorem outstanding_le (taken : s.step a = some s')
    (undelivered : ∀ copy channel, a ≠ .deliver copy channel) :
    s'.outstanding channel ≤ s.outstanding channel :=
  Registry.countP_le_of fun _ _ found held => outstanding_before taken found held undelivered

/-- A delivery is outstanding on its own channel. -/
theorem outstanding_delivered {copy : CopyId} {own : ChannelId}
    (taken : s.step (.deliver copy own) = some s') :
    s'.outstanding channel ≤ s.outstanding channel + (if channel = own then 1 else 0) := by
  have moved : ∃ place, s'.copies = s.copies.move copy place ∧
      (channel ≠ own → place.outstandingOn channel = false) := by
    obtain ⟨t, acts, rfl⟩ := State.step_cases taken
    cases acts with
    | delivered | refused =>
      refine ⟨_, rfl, fun other => ?_⟩
      simpa [Place.outstandingOn] using Ne.symm other
  obtain ⟨place, copies, elsewhere⟩ := moved
  unfold State.outstanding
  rw [copies]
  split
  · exact Registry.countP_modify_le
  next other =>
    apply Registry.countP_le_of
    intro id held found counts
    obtain ⟨before, old, rfl⟩ := Registry.of_modify found
    refine ⟨before, old, ?_⟩
    split at counts
    · cases (elsewhere other).symm.trans counts
    · exact counts

end Steps

end FlashSaleLab
