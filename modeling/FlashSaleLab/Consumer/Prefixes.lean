import FlashSaleLab.Consumer.Settlement

/-!
# The beginnings of an execution of `handleMessage`

An execution that has come to an await has done a part of its deeds, and only the outcomes of
the calls behind it have mattered. So an outcome can be decided when its call ends, and the whole
is what has been done and what is still to come.
-/
namespace FlashSaleLab.OrderNotificationConsumer

/-- Under these outcomes an execution comes to `pc`, with these deeds behind it. -/
inductive ComesTo (message : Message) (outcomes : Outcomes) : HandlerPc → List Deed → Prop
  | began : ComesTo message outcomes (firstAwait message.content) []
  | settled (pc after : HandlerPc) (deeds : List Deed) (before : ComesTo message outcomes pc deeds)
      (awaited : outcomes.settle pc = some after) :
      ComesTo message outcomes after (deeds ++ observed after)
  | resumed (pc : HandlerPc) (segment : Segment) (deeds : List Deed)
      (before : ComesTo message outcomes pc deeds)
      (goes : resume message 0 (outcomes.ops pc) pc = some segment) :
      ComesTo message outcomes segment.pc
        (deeds ++ deedsIn message (outcomes.ops pc) pc segment)

section Sequential

variable {message : Message} {outcomes later : Outcomes} {pc after : HandlerPc}
  {deeds : List Deed} {segment : Segment} {ops : ChannelOps} {fresh : CopyId}

/-! ### An execution awaits a call or is in between -/

theorem settle_waits (awaited : outcomes.settle pc = some after) :
    resume message fresh ops pc = none := by
  cases pc <;> first | rfl | cases awaited

theorem settle_goes (awaited : outcomes.settle pc = some after) :
    ∃ segment, resume message fresh ops after = some segment := by
  cases pc with
  | checking =>
    cases awaited
    cases outcomes.check with
    | rejected => exact ⟨_, rfl⟩
    | resolved reply =>
      cases reply with
      | none => exact ⟨_, rfl⟩
      | some text =>
        simp only [resume]
        split
        · exact ⟨_, rfl⟩
        · split
          · exact ⟨_, rfl⟩
          · exact ⟨_, rfl⟩
  | locking =>
    cases awaited
    cases outcomes.lock with
    | rejected => exact ⟨_, rfl⟩
    | resolved acquired => cases acquired <;> exact ⟨_, rfl⟩
  | notifying =>
    cases awaited
    cases outcomes.notification <;> exact ⟨_, rfl⟩
  | releasing =>
    cases awaited
    simp only [resume]
    split
    · exact ⟨_, rfl⟩
    · exact ⟨_, rfl⟩
  | marking | cleaningUp again | confirming copy =>
    cases awaited
    exact ⟨_, rfl⟩
  | _ => cases awaited

theorem firstAwait_waits (content : Content) :
    resume message fresh ops (firstAwait content) = none := by
  unfold firstAwait
  split <;> rfl

theorem resume_waits {fresh' : CopyId} {ops' : ChannelOps}
    (goes : resume message fresh ops pc = some segment) :
    resume message fresh' ops' segment.pc = none := by
  cases resume_cases goes <;> rfl

/-! ### What `execute` does from there on -/

/-- Fuel for all awaits to come is enough. -/
theorem execute_enough (first : Nat) : ∀ {second : Nat} {pc : HandlerPc}, awaits pc ≤ first →
    awaits pc ≤ second →
    execute message outcomes first pc = execute message outcomes second pc := by
  induction first with
  | zero =>
    intro second pc none _
    have idle : outcomes.settle pc = .none := by
      cases awaited : outcomes.settle pc with
      | none => rfl
      | some after => exact absurd (awaits_settle awaited) (by omega)
    cases second <;> simp [execute, idle]
  | succ first ih =>
    intro second pc enough enough'
    cases awaited : outcomes.settle pc with
    | none => cases second <;> simp [execute, awaited]
    | some after =>
      have fewer := awaits_settle awaited
      obtain ⟨second, rfl⟩ : ∃ n, second = n + 1 := ⟨second - 1, by omega⟩
      cases goes : resume message 0 (outcomes.ops after) after with
      | none => simp [execute, awaited, goes]
      | some segment =>
        have := awaits_resume goes
        have rest : execute message outcomes first segment.pc =
            execute message outcomes second segment.pc := ih (by omega) (by omega)
        simp [execute, awaited, goes, rest]

/-- The rest of an execution, from an await or from the segment after it. -/
def proceed (message : Message) (outcomes : Outcomes) (fuel : Nat) (pc : HandlerPc) :
    HandlerPc × List Deed :=
  match resume message 0 (outcomes.ops pc) pc with
  | some segment =>
    let rest := execute message outcomes fuel segment.pc
    (rest.1, deedsIn message (outcomes.ops pc) pc segment ++ rest.2)
  | none => execute message outcomes fuel pc

/-- What is done and what is still to come are the whole execution: induction on the way here. -/
theorem ComesTo.proceeds (comes : ComesTo message outcomes pc deeds) {fuel : Nat}
    (enough : awaits pc ≤ fuel) : handleMessage message outcomes =
      ((proceed message outcomes fuel pc).1, deeds ++ (proceed message outcomes fuel pc).2) := by
  induction comes generalizing fuel with
  | began =>
    have seven : awaits (firstAwait message.content) ≤ 7 := by
      unfold firstAwait
      split <;> simp [awaits]
    simp only [proceed, firstAwait_waits, List.nil_append, handleMessage]
    rw [execute_enough 7 seven enough]
  | settled pc after deeds before awaited ih =>
    have fewer := awaits_settle awaited
    have whole := ih (Nat.le_add_right (awaits pc) fuel)
    rw [whole]
    obtain ⟨segment, goes⟩ : ∃ segment, resume message 0 (outcomes.ops after) after =
        some segment := settle_goes awaited
    obtain ⟨n, same⟩ : ∃ n, awaits pc + fuel = n + 1 := ⟨awaits pc + fuel - 1, by omega⟩
    have := awaits_resume goes
    have rest : execute message outcomes n segment.pc =
        execute message outcomes fuel segment.pc := execute_enough n (by omega) (by omega)
    simp [proceed, settle_waits awaited, same, execute, awaited, goes, rest]
  | resumed pc segment deeds before goes ih =>
    have := awaits_resume goes
    have whole := ih (Nat.le_add_right (awaits pc) fuel)
    rw [whole]
    have rest : execute message outcomes (awaits pc + fuel) segment.pc =
        execute message outcomes fuel segment.pc := execute_enough _ (by omega) enough
    simp [proceed, goes, resume_waits goes, rest]

/-- Where an execution is over `handleMessage` ends. -/
theorem ComesTo.ends (comes : ComesTo message outcomes pc deeds)
    (ended : pc = .returned ∨ pc = .rejected) : handleMessage message outcomes = (pc, deeds) := by
  rw [comes.proceeds (Nat.le_refl _)]
  rcases ended with rfl | rfl <;> simp [proceed, resume, awaits, execute]

/-! ### Outcomes are decided one after the other -/

theorem ComesTo.settles (comes : ComesTo message outcomes pc deeds) (ops : later.ops = outcomes.ops)
    (earlier : ∀ other, awaits pc < awaits other → later.settle other = outcomes.settle other) :
    ComesTo message later pc deeds := by
  induction comes with
  | began => exact .began
  | settled pc after deeds before awaited ih =>
    have fewer := awaits_settle awaited
    exact .settled pc after deeds (ih fun other more => earlier other (by omega))
      ((earlier pc fewer).trans awaited)
  | resumed pc segment deeds before goes ih =>
    have fewer := awaits_resume goes
    rw [← ops] at goes ⊢
    exact .resumed pc segment deeds (ih fun other more => earlier other (by omega)) goes

theorem ComesTo.calls (comes : ComesTo message outcomes pc deeds)
    (settle : later.settle = outcomes.settle)
    (earlier : ∀ other, awaits pc ≤ awaits other → later.ops other = outcomes.ops other) :
    ComesTo message later pc deeds := by
  induction comes with
  | began => exact .began
  | settled pc after deeds before awaited ih =>
    have fewer := awaits_settle awaited
    exact .settled pc after deeds (ih fun other more => earlier other (by omega))
      (by rw [settle]; exact awaited)
  | resumed pc segment deeds before goes ih =>
    have fewer := awaits_resume goes
    have same := earlier pc fewer
    rw [← same] at goes ⊢
    exact .resumed pc segment deeds (ih fun other more => earlier other (by omega)) goes

/-- Whatever the channel's calls do in a segment, there are outcomes that say so. -/
theorem ComesTo.goes_on (comes : ComesTo message outcomes pc deeds)
    (goes : resume message 0 ops pc = some segment) :
    ∃ later, ComesTo message later segment.pc (deeds ++ deedsIn message ops pc segment) := by
  let later : Outcomes := { outcomes with ops := Function.update outcomes.ops pc ops }
  have own : later.ops pc = ops := Function.update_self ..
  have arrives : ComesTo message later pc deeds := by
    cases comes with
    | began => rw [firstAwait_waits] at goes; cases goes
    | resumed before segment' deeds' comes' goes' => rw [resume_waits goes'] at goes; cases goes
    | settled before pc deeds' comes' awaited =>
      have fewer := awaits_settle awaited
      refine .settled before pc deeds' (comes'.calls rfl fun other more => ?_) awaited
      exact Function.update_of_ne (by rintro rfl; omega) _ _
  refine ⟨later, ?_⟩
  rw [← own] at goes ⊢
  exact .resumed pc segment deeds arrives goes

end Sequential

end FlashSaleLab.OrderNotificationConsumer
